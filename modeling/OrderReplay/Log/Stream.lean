import OrderReplay.Text.Utf8

/-! A log as it arrives: octets in portions of any size, with read errors between
them. Lines are cut from it one by one and decoded each on its own. -/
namespace OrderReplay.Log

inductive Arrival where
  | octets (portion : List UInt8)
  | fault (cause : Text)
  deriving DecidableEq, Repr

abbrev Stream := List Arrival

def Stream.size : Stream → Nat
  | [] => 0
  | .octets portion :: rest => portion.length + 1 + Stream.size rest
  | .fault _ :: rest => 1 + Stream.size rest

def Stream.ofOctets (octets : List UInt8) : Stream := [.octets octets]

def lineFeed : UInt8 := 10
def carriageReturn : UInt8 := 13

inductive Found where
  /-- The octets before a line feed. -/
  | terminated (octets : List UInt8)
  /-- The octets before the end of the stream, at least one. -/
  | unterminated (octets : List UInt8)
  | fault (cause : Text)
  | finished
  deriving DecidableEq, Repr

/-- Gathers one line behind the octets already `pending`. A read error takes the
pending octets with it. -/
def gather (pending : List UInt8) : Stream → Found × Stream
  | [] => (if pending.isEmpty then .finished else .unterminated pending, [])
  | .fault cause :: rest => (.fault cause, rest)
  | .octets portion :: rest =>
    match portion.dropWhile (· ≠ lineFeed) with
    | [] => gather (pending ++ portion) rest
    | _ :: after =>
      (.terminated (pending ++ portion.takeWhile (· ≠ lineFeed)), .octets after :: rest)

/-- A line without the carriage return that stood directly before its line feed. -/
def chomp (octets : List UInt8) : List UInt8 :=
  if octets.getLast? = some carriageReturn then octets.dropLast else octets

theorem dropWhile_length_lt {p : α → Bool} {l : List α} {a : α} {rest : List α}
    (h : l.dropWhile p = a :: rest) : rest.length < l.length := by
  have := (List.dropWhile_suffix p (l := l)).length_le
  rw [h] at this
  exact this

theorem gather_size_le (pending : List UInt8) (stream : Stream) :
    (gather pending stream).2.size ≤ stream.size := by
  induction stream generalizing pending with
  | nil => simp [gather]
  | cons arrival rest ih =>
    cases arrival with
    | fault cause => simp [gather, Stream.size]
    | octets portion =>
      unfold gather
      split
      next =>
        have := ih (pending ++ portion)
        simp only [Stream.size]; omega
      next feed after h =>
        have := dropWhile_length_lt h
        simp only [Stream.size]; omega

/-- Unless nothing is left, cutting a line makes the stream smaller. -/
theorem gather_size_lt (pending : List UInt8) (stream : Stream) (h : stream ≠ []) :
    (gather pending stream).2.size < stream.size := by
  cases stream with
  | nil => exact absurd rfl h
  | cons arrival rest =>
    cases arrival with
    | fault cause => simp [gather, Stream.size]
    | octets portion =>
      unfold gather
      split
      next =>
        have := gather_size_le (pending ++ portion) rest
        simp only [Stream.size]; omega
      next feed after h =>
        have := dropWhile_length_lt h
        simp only [Stream.size]; omega

end OrderReplay.Log
