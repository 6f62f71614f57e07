import Mathlib.Algebra.Group.Nat.Defs
import Mathlib.Data.List.Basic
import Mathlib.Order.Basic

/-!
# Bodies of bounded size

`netguard/url.go`: `boundedReadCloser` passes on at most a number of bytes of a body. It asks the
body for one byte more than it may pass on, so that a body that ends at the limit is told from one
that goes on.
-/

namespace MinimaxProxy.Netguard

/-- What a read can report. -/
inductive ReadError
  | eof
  /-- `ErrResponseTooLarge`. -/
  | tooLarge
deriving DecidableEq

/-- A body that arrives in chunks and then ends. Some readers report the end with the last bytes
(`eager`), others at the read after them. -/
structure Body where
  chunks : List (List UInt8)
  eager : Bool

namespace Body

def content (b : Body) : List UInt8 := b.chunks.flatten

/-- A read with room for `room` bytes, with whether it reports the end. -/
def read (b : Body) (room : Nat) : (List UInt8 × Bool) × Body :=
  match b.chunks with
  | [] => (([], true), b)
  | c :: rest =>
    let chunks := if (c.drop room).isEmpty then rest else c.drop room :: rest
    ((c.take room, b.eager && chunks.isEmpty), { b with chunks })

/-- What a body has still to give: each read takes a byte or ends a chunk. -/
def toCome (b : Body) : Nat := b.chunks.length + b.content.length

/-- A read takes a part of the content that fits; after the end nothing is left. -/
theorem read_spec (b : Body) {room : Nat} (positive : 0 < room) :
    b.content = (b.read room).1.1 ++ (b.read room).2.content ∧ (b.read room).1.1.length ≤ room ∧
      ((b.read room).1.2 = true → (b.read room).2.content = []) ∧ ((b.read room).1.2 = false → (b.read room).2.toCome < b.toCome) := by
  obtain ⟨_ | ⟨c, rest⟩, eager⟩ := b
  · simp [read, content]
  · by_cases whole : c.length ≤ room
    · simp only [read, content, toCome, List.drop_eq_nil_of_le whole, List.take_of_length_le whole]
      refine ⟨by simp, whole, ?_, by simp; omega⟩
      cases rest <;> simp
    · have left : (c.drop room).isEmpty = false := by simp; omega
      simp only [read, content, toCome, left]
      refine ⟨?_, List.length_take_le _ _, by simp, by simp; omega⟩
      rw [if_neg (by simp), List.flatten_cons, List.flatten_cons, ← List.append_assoc, List.take_append_drop]

end Body

/-- `boundedReadCloser` (url.go:235). -/
structure BoundedReadCloser where
  source : Body
  remaining : Int
  exceeded : Bool := false

namespace BoundedReadCloser

/-- `Read` (url.go:241) into a buffer of `size` bytes. The sum of the room is a 64-bit one. -/
def read (r : BoundedReadCloser) (size : Nat) : (List UInt8 × Option ReadError) × BoundedReadCloser :=
  if r.exceeded then (([], some .tooLarge), r)
  else if size = 0 then (([], none), r)
  else
    let most := (r.remaining + 1).bmod (2 ^ 64)
    let want := if (size : Int) > most then most else size
    let ((temporary, eof), source) := r.source.read want.toNat
    let beyond : Bool := (temporary.length : Int) > r.remaining
    let allowed := if beyond then r.remaining.toNat else temporary.length
    ((temporary.take allowed, if beyond then some .tooLarge else if eof then some .eof else none),
      { source, remaining := r.remaining - allowed, exceeded := beyond })

/-- The reads of a caller, with the buffers it brings. -/
def reads (r : BoundedReadCloser) : List Nat → List (List UInt8 × Option ReadError)
  | [] => []
  | size :: sizes => (r.read size).1 :: (r.read size).2.reads sizes

end BoundedReadCloser

/-- The bytes a caller has got. -/
def delivered (results : List (List UInt8 × Option ReadError)) : List UInt8 := (results.map (·.1)).flatten

/-- The reader between two reads: `got` has been passed on of `content`. -/
structure Sound (content : List UInt8) (limit : Nat) (got : List UInt8) (r : BoundedReadCloser) : Prop where
  within : r.exceeded = false → content = got ++ r.source.content ∧ r.remaining = limit - got.length ∧ got.length ≤ limit
  beyond : r.exceeded = true → got = content.take limit ∧ limit < content.length

variable {content got : List UInt8} {limit size : Nat} {r : BoundedReadCloser}

/-- A read that has room to ask for the byte past the limit. -/
theorem Sound.read (sound : Sound content limit got r) (below : limit < 2 ^ 63 - 1) (size : Nat) :
    Sound content limit (got ++ (r.read size).1.1) (r.read size).2 ∧
    ((r.read size).1.2 = some .tooLarge ↔ (r.read size).2.exceeded = true) ∧
    ((r.read size).1.2 = some .eof → got ++ (r.read size).1.1 = content ∧ content.length ≤ limit) ∧
    ((r.read size).1.2 = none → (r.read size).2.source.toCome + min size 1 ≤ r.source.toCome) := by
  unfold BoundedReadCloser.read
  cases exceeded : r.exceeded with
  | true => exact ⟨⟨by simp [exceeded], by simpa [exceeded] using sound.beyond⟩, by simp [exceeded], by simp, by simp⟩
  | false =>
    obtain ⟨split, left, within⟩ := sound.within exceeded
    rw [if_neg (by simp)]
    by_cases empty : size = 0
    · rw [if_pos empty]
      exact ⟨by simpa using sound, by simp [exceeded], by simp, by simp [empty]⟩
    · have most : (r.remaining + 1).bmod (2 ^ 64) = r.remaining + 1 := Int.bmod_eq_of_le (by omega) (by omega)
      rw [if_neg empty, most]
      dsimp only
      generalize room : (if (size : Int) > r.remaining + 1 then r.remaining + 1 else (size : Int)).toNat = want
      have positive : 0 < want := by
        rw [← room]
        split <;> omega
      obtain ⟨parts, fits, ends, fewer⟩ := r.source.read_spec positive
      generalize r.source.read want = result at *
      obtain ⟨⟨temporary, eof⟩, source⟩ := result
      dsimp only at *
      by_cases beyond : (temporary.length : Int) > r.remaining
      · simp only [beyond, decide_true, if_true]
        -- The byte past the limit is there, so the bytes passed on end at the limit.
        have long : limit < content.length := by
          rw [split, parts, List.length_append, List.length_append]
          omega
        have first : got ++ temporary.take r.remaining.toNat = content.take limit := by
          have rest : limit - got.length = r.remaining.toNat := by omega
          rw [split, parts, List.take_append, List.take_of_length_le within, rest, List.take_append_of_le_length (by omega)]
        exact ⟨⟨nofun, fun _ => ⟨first, long⟩⟩, by simp, nofun, nofun⟩
      · simp only [beyond, decide_false, if_false, Bool.false_eq_true, List.take_length]
        have passed : content = (got ++ temporary) ++ source.content := by rw [split, parts, List.append_assoc]
        have count : (got ++ temporary).length ≤ limit := by
          rw [List.length_append]
          omega
        refine ⟨⟨fun _ => ⟨passed, ?_, count⟩, nofun⟩, ?_, ?_, ?_⟩
        · dsimp only
          rw [List.length_append]
          omega
        · cases eof <;> simp
        · cases eof with
          | false => nofun
          | true =>
            have all : content = got ++ temporary := by rw [passed, ends rfl, List.append_nil]
            exact fun _ => ⟨all.symm, all ▸ count⟩
        · cases eof with
          | false =>
            intro _
            have := fewer rfl
            omega
          | true => nofun

/-- The bytes passed on are the first ones, and no more than the limit. -/
theorem Sound.first (sound : Sound content limit got r) : got <+: content.take limit := by
  cases exceeded : r.exceeded with
  | true => exact (sound.beyond exceeded).1 ▸ List.prefix_refl _
  | false =>
    obtain ⟨split, -, within⟩ := sound.within exceeded
    rw [split, List.take_append, List.take_of_length_le within]
    exact List.prefix_append _ _

/-- A read that reports something has passed on the last byte there is to pass on. -/
theorem Sound.last (sound : Sound content limit got r) (below : limit < 2 ^ 63 - 1) (reports : (r.read size).1.2 ≠ none) :
    got ++ (r.read size).1.1 = content.take limit := by
  obtain ⟨next, large, ends, -⟩ := sound.read below size
  cases result : (r.read size).1.2 with
  | none => exact absurd result reports
  | some e =>
    cases e with
    | tooLarge => exact (next.beyond (large.mp result)).1
    | eof =>
      obtain ⟨all, short⟩ := ends result
      rw [all, List.take_of_length_le short]

/-- What a caller has got after its reads, and what was reported. -/
theorem Sound.reads (sound : Sound content limit got r) (below : limit < 2 ^ 63 - 1) (sizes : List Nat) :
    got ++ delivered (r.reads sizes) <+: content.take limit ∧
    (∀ out ∈ r.reads sizes, out.2 = some .tooLarge → limit < content.length) ∧
    (∀ out ∈ r.reads sizes, out.2 = some .eof → content.length ≤ limit) ∧
    ((∃ out ∈ r.reads sizes, out.2 ≠ none) → got ++ delivered (r.reads sizes) = content.take limit) := by
  induction sizes generalizing got r with
  | nil => exact ⟨by simpa [BoundedReadCloser.reads, delivered] using sound.first, nofun, nofun, nofun⟩
  | cons size sizes ih =>
    obtain ⟨next, large, ends, -⟩ := sound.read below size
    obtain ⟨first, longs, shorts, done⟩ := ih next
    have more : got ++ delivered (r.reads (size :: sizes)) =
        got ++ (r.read size).1.1 ++ delivered ((r.read size).2.reads sizes) := by
      simp [BoundedReadCloser.reads, delivered]
    rw [more]
    refine ⟨first, List.forall_mem_cons.mpr ⟨fun report => (next.beyond (large.mp report)).2, longs⟩,
      List.forall_mem_cons.mpr ⟨fun report => (ends report).2, shorts⟩, ?_⟩
    rintro ⟨out, mem, reports⟩
    rcases List.mem_cons.mp mem with rfl | later
    · -- Nothing can follow the last byte.
      have all := sound.last below reports
      rw [all] at first ⊢
      exact first.eq_of_length_le (by simp)
    · exact done ⟨out, later, reports⟩

/-- Once the body was too large, it stays so. -/
theorem reads_exceeded (exceeded : r.exceeded = true) {sizes : List Nat} : ∀ out ∈ r.reads sizes, out = ([], some .tooLarge) := by
  have same (size : Nat) : r.read size = (([], some .tooLarge), r) := if_pos exceeded
  induction sizes with
  | nil => nofun
  | cons size sizes ih =>
    rw [BoundedReadCloser.reads, same]
    exact List.forall_mem_cons.mpr ⟨rfl, ih⟩

theorem Sound.stays (sound : Sound content limit got r) (below : limit < 2 ^ 63 - 1) {sizes : List Nat}
    {before later : List (List UInt8 × Option ReadError)} {out : List UInt8 × Option ReadError}
    (split : r.reads sizes = before ++ out :: later) (report : out.2 = some .tooLarge) : ∀ next ∈ later, next = ([], some .tooLarge) := by
  induction before generalizing got r sizes with
  | nil =>
    cases sizes with
    | nil => cases split
    | cons size sizes =>
      obtain ⟨rfl, rfl⟩ := List.cons.inj split
      exact reads_exceeded ((sound.read below size).2.1.mp report)
  | cons earlier before ih =>
    cases sizes with
    | nil => cases split
    | cons size sizes => exact ih (sound.read below size).1 (List.cons.inj split).2

/-- Enough reads with room come to the end. -/
theorem Sound.ends (sound : Sound content limit got r) (below : limit < 2 ^ 63 - 1) (sizes : List Nat)
    (enough : r.source.toCome < (sizes.filter (· ≠ 0)).length) : ∃ out ∈ r.reads sizes, out.2 ≠ none := by
  induction sizes generalizing got r with
  | nil => cases enough
  | cons size sizes ih =>
    obtain ⟨next, -, -, fewer⟩ := sound.read below size
    by_cases quiet : (r.read size).1.2 = none
    · have left : (r.read size).2.source.toCome < (sizes.filter (· ≠ 0)).length := by
        have := fewer quiet
        rw [List.filter_cons] at enough
        split at enough
        · next room =>
          have : size ≠ 0 := of_decide_eq_true room
          rw [List.length_cons] at enough
          omega
        · omega
      obtain ⟨out, mem, reports⟩ := ih next left
      exact ⟨out, List.mem_cons_of_mem _ mem, reports⟩
    · exact ⟨_, List.mem_cons_self, quiet⟩

/-- Whatever the chunks of the body and the buffers of the caller: the bytes passed on are the first
ones up to the limit, all of them once a read has reported something, as enough reads do; that the
body is too large is reported if and only if it is, and then by every later read. -/
theorem bounded_reads (body : Body) (limit : Nat) (below : limit < 2 ^ 63 - 1) (sizes : List Nat) :
    let results := (BoundedReadCloser.mk body limit false).reads sizes
    delivered results <+: body.content.take limit ∧
    ((∃ out ∈ results, out.2 = some .tooLarge) → limit < body.content.length) ∧
    ((∃ out ∈ results, out.2 ≠ none) → delivered results = body.content.take limit ∧
      ((∃ out ∈ results, out.2 = some .tooLarge) ↔ limit < body.content.length)) ∧
    (body.toCome < (sizes.filter (· ≠ 0)).length → ∃ out ∈ results, out.2 ≠ none) ∧
    ∀ before out later, results = before ++ out :: later → out.2 = some .tooLarge → ∀ next ∈ later, next = ([], some .tooLarge) := by
  have sound : Sound body.content limit [] (BoundedReadCloser.mk body limit false) := ⟨fun _ => by simp, nofun⟩
  obtain ⟨first, longs, shorts, done⟩ := sound.reads below sizes
  refine ⟨first, fun ⟨out, mem, report⟩ => longs out mem report, fun reported => ⟨done reported, ?_⟩, sound.ends below sizes, ?_⟩
  · obtain ⟨out, mem, reports⟩ := reported
    refine ⟨fun ⟨out, mem, report⟩ => longs out mem report, fun long => ?_⟩
    cases result : out.2 with
    | none => exact absurd result reports
    | some e =>
      cases e with
      | tooLarge => exact ⟨out, mem, result⟩
      | eof => exact absurd (shorts out mem result) (by omega)
  · exact fun before out later split report => sound.stays below split report

/-- Three bytes in two chunks, under a limit of two, read one byte at a time. -/
theorem bounded_reads_three : (BoundedReadCloser.mk ⟨[[1, 2], [3]], false⟩ 2 false).reads [1, 0, 1, 1, 1, 1, 1] =
      [([1], none), ([], none), ([2], none), ([], some .tooLarge), ([], some .tooLarge), ([], some .tooLarge), ([], some .tooLarge)] ∧
    delivered ((BoundedReadCloser.mk ⟨[[1, 2], [3]], false⟩ 2 false).reads [1, 0, 1, 1, 1, 1, 1]) = [1, 2] := by
  obtain ⟨-, -, all, ends, -⟩ := bounded_reads ⟨[[1, 2], [3]], false⟩ 2 (by decide) [1, 0, 1, 1, 1, 1, 1]
  exact ⟨rfl, (all (ends (by decide))).1⟩

end MinimaxProxy.Netguard
