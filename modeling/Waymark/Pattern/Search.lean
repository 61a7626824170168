import Waymark.Pattern.Expr
import Waymark.Pattern.Marks

/-! # Searching a text for a pattern

The search follows all ways to match at once. `run` takes threads in order of preference to the
threads that lie behind the pattern, again in order of preference and with one thread for each
position: of several ways to reach a position only the preferred one is kept, since whatever
follows treats them alike. Hence the work grows with the length of the text, not with the
number of ways.

Among all matches the search answers the one that starts first, and of these the preferred one:
an earlier alternative before a later one, more rounds of a greedy repetition before fewer.
-/

namespace Waymark.Pattern

/-- Keeps the first thread at each position that is not marked. -/
def distinctFrom (seen : Marks) : List Thread → List Thread
  | [] => []
  | t :: rest =>
      if seen.contains t.index then distinctFrom seen rest
      else t :: distinctFrom (seen.insert t.index) rest

/-- Keeps the first thread at each position. -/
def distinct (threads : List Thread) : List Thread := distinctFrom .empty threads

/-- Applies a step a fixed number of times, stopping early when no thread is left. -/
def times (step : List Thread → List Thread) : Nat → List Thread → List Thread
  | 0, threads => threads
  | _ + 1, [] => []
  | count + 1, threads => times step count (step threads)

/-- How far a repetition was followed: the positions where a round has ended, and the threads
found so far, the latest first. -/
structure Trail where
  seen : Marks
  found : List Thread

namespace Trail

/-- Nothing was followed. -/
def empty : Trail := ⟨.empty, []⟩

/-- Marks the position of a thread. -/
def visit (trail : Trail) (t : Thread) : Trail :=
  { trail with seen := trail.seen.insert t.index }

/-- Adds a thread. -/
def add (trail : Trail) (t : Thread) : Trail := { trail with found := t :: trail.found }

end Trail

/-- Follows any number of further rounds from threads that have just ended a round. A round that
does not move is not repeated. The fuel bounds the number of rounds by the text that is left. -/
def rounds (step : Thread → List Thread) (greedy : Bool) :
    (fuel : Nat) → List Thread → Trail → Trail
  | 0, threads, trail =>
      threads.foldl (fun trail t =>
        if trail.seen.contains t.index then trail else (trail.visit t).add t) trail
  | fuel + 1, threads, trail =>
      threads.foldl (fun trail t =>
        if trail.seen.contains t.index then trail
        else
          let next := (step t).filter (t.index < ·.index)
          if greedy then (rounds step greedy fuel next (trail.visit t)).add t
          else rounds step greedy fuel next ((trail.visit t).add t)) trail

/-- The threads behind one or more rounds. Behind a first round that does not move there is
nothing that the other ways through the first round do not reach as well. -/
def oneOrMore (step : Thread → List Thread) (greedy : Bool) (t : Thread) : List Thread :=
  let again (u : Thread) := if u.index = t.index then [] else step u
  (rounds again greedy (t.cursor.rest.length + 1) (step t) .empty).found.reverse

/-- The threads behind any number of rounds. -/
def zeroOrMore (step : Thread → List Thread) (greedy : Bool) (t : Thread) : List Thread :=
  if greedy then distinct (oneOrMore step greedy t ++ [t])
  else distinct (t :: oneOrMore step greedy t)

/-- How far a repetition with a bound was followed: for each number of rounds that were left the
positions where a round has ended, the largest number first, and the threads found so far, the
latest first. -/
structure BoundedTrail where
  seen : List Marks
  found : List Thread

namespace BoundedTrail

/-- The positions marked for the largest number of rounds. -/
def here (trail : BoundedTrail) : Marks := trail.seen.headD .empty

/-- Adds a thread. -/
def add (trail : BoundedTrail) (t : Thread) : BoundedTrail :=
  { trail with found := t :: trail.found }

end BoundedTrail

/-- Follows at most `budget` further rounds. A position is tried once with each number of rounds
left. -/
def atMost (step : Thread → List Thread) (greedy : Bool) :
    (budget : Nat) → List Thread → BoundedTrail → BoundedTrail
  | 0, threads, trail => threads.foldl BoundedTrail.add trail
  | budget + 1, threads, trail =>
      threads.foldl (fun trail t =>
        if trail.here.contains t.index then trail
        else
          let below : BoundedTrail := ⟨trail.seen.tail, trail.found⟩
          let followed :=
            if greedy then (atMost step greedy budget (step t) below).add t
            else atMost step greedy budget (step t) (below.add t)
          ⟨trail.here.insert t.index :: followed.seen, followed.found⟩) trail

/-- The threads behind at most `budget` rounds. -/
def upTo (step : Thread → List Thread) (greedy : Bool) (budget : Nat) (t : Thread) : List Thread :=
  (atMost step greedy budget [t] ⟨[], []⟩).found.reverse

namespace Expr

/-- The threads behind a pattern, in order of preference. -/
def run : Expr → List Thread → List Thread
  | empty, threads => threads
  | anchor kind, threads => threads.filter fun t => kind.holds t.cursor
  | one set, threads => threads.filterMap (·.advance? set)
  | capture name body, threads =>
      distinct (threads.flatMap fun t => (run body [t]).map (·.remember name t.cursor))
  | cat a b, threads => run b (run a threads)
  | alt a b, threads => distinct (threads.flatMap fun t => run a [t] ++ run b [t])
  | repeated body low high greedy, threads =>
      let step (t : Thread) := run body [t]
      match high with
      | some most =>
          if most < low then []
          else distinct ((times (run body) low threads).flatMap (upTo step greedy (most - low)))
      | none =>
          match low with
          | 0 => distinct (threads.flatMap (zeroOrMore step greedy))
          | least + 1 =>
              distinct ((times (run body) least threads).flatMap (oneOrMore step greedy))

/-- The preferred match that starts first. -/
def search (e : Expr) (text : List Char) : Option Thread :=
  (Cursor.positions 0 none text).findSome? fun cursor => (e.run [⟨cursor, []⟩]).head?

end Expr

end Waymark.Pattern
