import OrderReplay.Log.Stream

/-! Reading a log line by line. Lines are numbered from one in the order in which they
are handed out; a read error hands out nothing and takes no number. -/
namespace OrderReplay.Log

structure Line where
  number : Nat
  text : Text
  deriving DecidableEq, Repr

inductive Reading where
  | line (line : Line)
  | fault (cause : Text)
  | finished
  deriving DecidableEq, Repr

structure Reader where
  rest : Stream
  /-- Lines handed out so far. -/
  read : Nat
  deriving DecidableEq, Repr

namespace Reader

def ofStream (stream : Stream) : Reader := ⟨stream, 0⟩

/-- The next line, which is decoded without its line end. What is left of the log when
it ends without a line feed is a line too, unless it is empty, and keeps a carriage
return at its end. -/
def next (r : Reader) : Reading × Reader :=
  match gather [] r.rest with
  | (.terminated octets, rest) =>
    (.line ⟨r.read + 1, Text.Utf8.decode (chomp octets)⟩, ⟨rest, r.read + 1⟩)
  | (.unterminated octets, rest) =>
    (.line ⟨r.read + 1, Text.Utf8.decode octets⟩, ⟨rest, r.read + 1⟩)
  | (.fault cause, rest) => (.fault cause, ⟨rest, r.read⟩)
  | (.finished, rest) => (.finished, ⟨rest, r.read⟩)

theorem next_size (r : Reader) (h : (next r).1 ≠ .finished) :
    (next r).2.rest.size < r.rest.size := by
  have nonempty : r.rest ≠ [] := by
    intro empty
    apply h
    simp [next, empty, gather]
  have less := gather_size_lt [] r.rest nonempty
  unfold next
  split <;> simp_all

def readings (r : Reader) : List (Reading × Reader) :=
  match _h : next r with
  | (.finished, after) => [(.finished, after)]
  | (.line line, after) => (.line line, after) :: readings after
  | (.fault cause, after) => (.fault cause, after) :: readings after
termination_by r.rest.size
decreasing_by
  all_goals
    have := next_size r
    simp_all

end Reader
end OrderReplay.Log
