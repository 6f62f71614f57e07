import Mathlib.Data.List.Basic
import Mathlib.Data.List.DropRight
import Mathlib.Tactic.IntervalCases

/-!
# Text

Functions of Go's `strings` and `strconv` on lists of characters: cutting at a character,
trimming, and decimal numbers of 64 bits with an optional sign.
-/

namespace Text

/-- `strings.Cut` at the first `sep`. -/
def cut (sep : Char) : List Char → Option (List Char × List Char)
  | [] => none
  | c :: rest => if c = sep then some ([], rest) else (cut sep rest).map fun (before, after) => (c :: before, after)

theorem cut_eq_some {sep : Char} {s before after : List Char} :
    cut sep s = some (before, after) ↔ s = before ++ sep :: after ∧ sep ∉ before := by
  induction s generalizing before with
  | nil => simp [cut]
  | cons c rest ih =>
    rw [cut]
    split
    · rename_i here
      subst here
      constructor
      · intro h
        cases h
        exact ⟨rfl, List.not_mem_nil⟩
      · rintro ⟨split, unseen⟩
        cases before with
        | nil => simpa using split
        | cons d before =>
          obtain ⟨rfl, -⟩ := List.cons.inj split
          exact absurd List.mem_cons_self unseen
    · rename_i later
      rw [Option.map_eq_some_iff]
      constructor
      · rintro ⟨⟨before', after'⟩, found, split⟩
        cases split
        obtain ⟨rfl, unseen⟩ := ih.mp found
        exact ⟨rfl, fun mem => (List.mem_cons.mp mem).elim (fun same => later same.symm) unseen⟩
      · rintro ⟨split, unseen⟩
        cases before with
        | nil => exact absurd (List.cons.inj split).1 later
        | cons d before =>
          obtain ⟨rfl, rest⟩ := List.cons.inj split
          exact ⟨(before, after), ih.mpr ⟨rest, fun mem => unseen (List.mem_cons_of_mem _ mem)⟩, rfl⟩

/-- A field ends at its first separator. -/
theorem field_unique {sep : Char} {a b x y : List Char} (ha : sep ∉ a) (hb : sep ∉ b) (h : a ++ sep :: x = b ++ sep :: y) :
    a = b ∧ x = y := by
  have left : cut sep (a ++ sep :: x) = some (a, x) := cut_eq_some.mpr ⟨rfl, ha⟩
  have right : cut sep (a ++ sep :: x) = some (b, y) := cut_eq_some.mpr ⟨h, hb⟩
  exact Prod.mk.inj (Option.some.inj (left.symm.trans right))

/-- `strings.TrimPrefix`. -/
def trimPrefix (p s : List Char) : List Char := if p.isPrefixOf s then s.drop p.length else s

@[simp] theorem trimPrefix_append (p s : List Char) : trimPrefix p (p ++ s) = s := by
  simp [trimPrefix]

/-- `strings.TrimSuffix`. -/
def trimSuffix (p s : List Char) : List Char := if p.isSuffixOf s then s.take (s.length - p.length) else s

/-- `strings.TrimRight` with these characters. -/
def trimRight (cutset s : List Char) : List Char := s.rdropWhile (cutset.contains ·)

/-- `strings.Trim` with these characters. -/
def trim (cutset s : List Char) : List Char := trimRight cutset (s.dropWhile (cutset.contains ·))

theorem trim_between {c : Char} {s : List Char} (clean : c ∉ s) : trim [c] (c :: s ++ [c]) = s := by
  have kept : s.rdropWhile ([c].contains ·) = s := List.rdropWhile_eq_self_iff.mpr fun filled isLast => by
    rw [List.contains_iff_mem, List.mem_singleton] at isLast
    exact clean (isLast ▸ List.getLast_mem filled)
  cases s with
  | nil => simp [trim, trimRight]
  | cons d rest =>
    have other : [c].contains d ≠ true := fun same => clean (List.mem_singleton.mp (List.contains_iff_mem.mp same) ▸ List.mem_cons_self)
    rw [trim, trimRight, List.cons_append, List.dropWhile_cons_of_pos (by simp), List.cons_append, List.dropWhile_cons_of_neg other,
      ← List.cons_append, List.rdropWhile_concat_pos _ _ _ (by simp), kept]

/-! ## Numbers -/

def digit (c : Char) : Option Nat := if '0' ≤ c ∧ c ≤ '9' then some (c.toNat - '0'.toNat) else none

/-- The number that digits denote after those that gave `acc`. -/
def decimalFrom (acc : Nat) : List Char → Option Nat
  | [] => some acc
  | c :: rest => (digit c).bind fun d => decimalFrom (10 * acc + d) rest

/-- At least one digit. -/
def decimal (s : List Char) : Option Nat := if s = [] then none else decimalFrom 0 s

/-- `strconv.ParseInt(s, 10, 64)`. -/
def parseInt (s : List Char) : Option Int :=
  match s with
  | '-' :: rest => (decimal rest).bind fun n => if n ≤ 2 ^ 63 then some (-n : Int) else none
  | '+' :: rest => (decimal rest).bind fun n => if n < 2 ^ 63 then some (n : Int) else none
  | rest => (decimal rest).bind fun n => if n < 2 ^ 63 then some (n : Int) else none

theorem digit_of_decimalFrom {acc n : Nat} {s : List Char} (h : decimalFrom acc s = some n) : ∀ c ∈ s, (digit c).isSome := by
  induction s generalizing acc with
  | nil => exact nofun
  | cons c rest ih =>
    obtain ⟨d, isDigit, later⟩ := Option.bind_eq_some_iff.mp h
    intro c' mem
    rcases List.mem_cons.mp mem with rfl | mem
    · rw [isDigit]
      rfl
    · exact ih later c' mem

theorem digit_of_decimal {n : Nat} {s : List Char} (h : decimal s = some n) : ∀ c ∈ s, (digit c).isSome := by
  rw [decimal] at h
  split at h
  · cases h
  · exact digit_of_decimalFrom h

/-- A number without a sign. -/
theorem parseInt_decimal {n : Nat} {s : List Char} (h : decimal s = some n) :
    parseInt s = if n < 2 ^ 63 then some (n : Int) else none := by
  have digits := digit_of_decimal h
  unfold parseInt
  split
  · exact absurd (digits '-' List.mem_cons_self) (by decide)
  · exact absurd (digits '+' List.mem_cons_self) (by decide)
  · rw [h]
    rfl

/-- Only digits and a sign are parsed. -/
theorem mem_of_parseInt {s : List Char} {n : Int} (h : parseInt s = some n) : ∀ c ∈ s, (digit c).isSome ∨ c = '-' ∨ c = '+' := by
  unfold parseInt at h
  intro c mem
  split at h <;> obtain ⟨k, denotes, -⟩ := Option.bind_eq_some_iff.mp h
  · rcases List.mem_cons.mp mem with rfl | mem
    · exact .inr (.inl rfl)
    · exact .inl (digit_of_decimal denotes c mem)
  · rcases List.mem_cons.mp mem with rfl | mem
    · exact .inr (.inr rfl)
    · exact .inl (digit_of_decimal denotes c mem)
  · exact .inl (digit_of_decimal denotes c mem)

/-- Every number has digits. -/
theorem exists_decimal {n : Nat} : ∃ s, decimal s = some n := by
  suffices written : ∃ s, s ≠ [] ∧ decimalFrom 0 s = some n by
    obtain ⟨s, nonempty, denotes⟩ := written
    exact ⟨s, by rw [decimal, if_neg nonempty, denotes]⟩
  have append (acc : Nat) (s : List Char) (c : Char) : decimalFrom acc (s ++ [c]) =
      (decimalFrom acc s).bind fun m => (digit c).map (10 * m + ·) := by
    induction s generalizing acc with
    | nil => cases h : digit c <;> simp [decimalFrom, h]
    | cons d s ih => cases h : digit d <;> simp [decimalFrom, h, ih]
  have digits (d : Nat) (lt : d < 10) : digit (Char.ofNat ('0'.toNat + d)) = some d := by
    interval_cases d <;> decide
  induction n using Nat.strongRecOn with
  | ind n ih =>
    by_cases small : n < 10
    · refine ⟨[Char.ofNat ('0'.toNat + n)], List.cons_ne_nil _ _, ?_⟩
      rw [decimalFrom, digits n small]
      simp [decimalFrom]
    · obtain ⟨s, -, denotes⟩ := ih (n / 10) (by omega)
      refine ⟨s ++ [Char.ofNat ('0'.toNat + n % 10)], by simp, ?_⟩
      rw [append, denotes, digits (n % 10) (by omega)]
      simp only [Option.bind_some, Option.map_some]
      congr 1
      omega

end Text
