import GroovyRounds.Path

/-!
# Dirty files by round

Which files are dirty in the current round, which are scheduled for the next,
and what the rounds have registered so far.
-/

namespace GroovyRounds

structure RoundTracker where
  /-- Dirty in the current round; the order says nothing. -/
  current : List Path := []
  /-- Scheduled for the next round, each once. -/
  next : List Path := []
  toCompile : List Path := []
  succeeded : List Path := []
  /-- Everything is recompiled anyway. -/
  forced : Bool := false
deriving DecidableEq, Repr

namespace RoundTracker

def isDirty (tracker : RoundTracker) (p : Path) : Bool :=
  tracker.current.contains p || tracker.next.contains p

/-- Schedules a file for the next round, once. -/
def schedule (tracker : RoundTracker) (p : Path) : RoundTracker :=
  if tracker.next.contains p then tracker else { tracker with next := tracker.next ++ [p] }

def setCurrent (tracker : RoundTracker) (files : List Path) : RoundTracker :=
  { tracker with current := files.eraseDups }

/-- Moves the scheduled files into the current round. -/
def startNext (tracker : RoundTracker) : RoundTracker :=
  { tracker with current := tracker.next, next := [] }

def registerToCompile (tracker : RoundTracker) (files : List Path) : RoundTracker :=
  { tracker with toCompile := tracker.toCompile ++ files }

def registerSucceeded (tracker : RoundTracker) (p : Path) : RoundTracker :=
  { tracker with succeeded := tracker.succeeded ++ [p] }

-- ---------------------------------------------------------------------------
-- What is dirty
-- ---------------------------------------------------------------------------

theorem mem_next_schedule {tracker : RoundTracker} {p q : Path} :
    q ∈ (tracker.schedule p).next ↔ q ∈ tracker.next ∨ q = p := by
  unfold schedule
  split
  · rename_i h
    have h : p ∈ tracker.next := by simpa using h
    constructor
    · exact Or.inl
    · rintro (hq | rfl)
      · exact hq
      · exact h
  · simp

@[simp] theorem next_startNext (tracker : RoundTracker) : tracker.startNext.next = [] := rfl

@[simp] theorem current_startNext (tracker : RoundTracker) :
    tracker.startNext.current = tracker.next := rfl

end RoundTracker

end GroovyRounds
