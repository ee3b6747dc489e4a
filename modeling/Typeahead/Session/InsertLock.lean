/-!
# Insert locks

While a session edits a document on behalf of the engine, its insert lock is up, so
that the changes it makes are not mistaken for typing. A lock is one flag; copies of a
lock share it. Raising the lock gives a guard, and the end of any guard lowers the
flag, whatever other guards there are.

`InsertLocks` is a set of locks with the guards that are alive, each guard under a
number of the owner's choice.
-/

namespace Typeahead

/-- Locks and the guards that hold them up. -/
structure InsertLocks where
  /-- The flags, each of them up or down. -/
  flags : List Bool
  /-- The flag that each lock shares. -/
  locks : List Nat
  /-- The flag that each guard lowers in the end, by the guard's number. -/
  guards : List (Nat × Nat)
deriving Repr, DecidableEq

namespace InsertLocks

/-- One lock, which is down. -/
def one : InsertLocks :=
  ⟨[false], [0], []⟩

/-- Add a lock with a flag of its own. -/
def addLock (set : InsertLocks) : InsertLocks :=
  { set with flags := set.flags ++ [false], locks := set.locks ++ [set.flags.length] }

/-- The flag of a lock; past the last lock there is no flag, and nothing happens to it. -/
def flagOf (set : InsertLocks) (lock : Nat) : Nat :=
  set.locks.getD lock set.flags.length

/-- Add a copy of a lock. -/
def copyLock (set : InsertLocks) (lock : Nat) : InsertLocks :=
  { set with locks := set.locks ++ [set.flagOf lock] }

/-- Put a flag up or down. -/
def setFlag (set : InsertLocks) (flag : Nat) (up : Bool) : InsertLocks :=
  { set with flags := set.flags.set flag up }

/-- The end of a guard lowers its flag; without such a guard nothing happens. -/
def release (set : InsertLocks) (guardNumber : Nat) : InsertLocks :=
  match set.guards.lookup guardNumber with
  | none => set
  | some flag =>
    { set with guards := set.guards.filter (·.1 != guardNumber) }.setFlag flag false

/-- Raise a lock and keep the guard under a number. A guard already kept there ends only
    after the lock has gone up, and lowers its own flag. -/
def acquire (set : InsertLocks) (lock guardNumber : Nat) : InsertLocks :=
  let raised := (set.setFlag (set.flagOf lock) true).release guardNumber
  { raised with guards := (guardNumber, set.flagOf lock) :: raised.guards }

/-- Raise a lock in a computation that fails; its guard ends with the computation. -/
def acquireAndFail (set : InsertLocks) (lock : Nat) : InsertLocks :=
  (set.setFlag (set.flagOf lock) true).setFlag (set.flagOf lock) false

/-- Whether each lock is up. -/
def held (set : InsertLocks) : List Bool :=
  set.locks.map fun flag => set.flags.getD flag false

end InsertLocks

end Typeahead
