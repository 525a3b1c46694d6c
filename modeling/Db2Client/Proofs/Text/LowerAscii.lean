import Mathlib.Data.List.Forall2
import Db2Client.Proofs.Text.LowerCase

/-!
# Characters behind ASCII lower case

The lower-case form of a character may be several characters, and it may depend on what stands
around it. Neither happens where the form is ASCII: the one form that starts with an ASCII character
and is longer is that of the dotted capital i, which goes on with a combining point, and both forms
of a sigma are outside of ASCII. So ASCII text at the front of a lowered text comes from as many
characters at the front of the text, each by itself, whatever follows them (`exists_lowersTo`).

A letter with case never becomes an underscore or a point (`eq_of_lowerChar_eq`).
-/

namespace Db2Client.Text

/-- All characters are ASCII. -/
def IsAsciiText (cs : List Char) : Prop := ∀ c ∈ cs, c.toNat < 128

instance (cs : List Char) : Decidable (IsAsciiText cs) :=
  List.decidableBAll (fun c : Char => c.toNat < 128) cs

/-- Each character has one character as its lower-case form. -/
def LowersTo (cs ds : List Char) : Prop := List.Forall₂ (fun c d => lowerChar c = [d]) cs ds

/-! ## From a text to its lower case -/

theorem toNat_ne_sigma {c d : Char} (h : lowerChar c = [d]) (hd : d.toNat < 128) :
    c.toNat ≠ 931 := by
  intro hsigma
  have hlower : lowerChar c = [Char.ofNat 963] := by
    have hshift : shiftOf 931 lowerRuns = 32 := by decide
    rw [lowerChar, if_neg (by omega), shifted, hsigma, hshift]
    rfl
  obtain rfl : d = Char.ofNat 963 := by simpa using h.symm.trans hlower
  exact absurd hd (by decide)

theorem lowerAfter_of_lowersTo {front ds : List Char} (h : LowersTo front ds)
    (hds : IsAsciiText ds) (before rest : List Char) :
    lowerAfter before (front ++ rest) = ds ++ lowerAfter (front.reverse ++ before) rest := by
  induction h generalizing before with
  | nil => rfl
  | @cons c d front ds hc _ ih =>
    obtain ⟨hd, hrest⟩ := List.forall_mem_cons.1 hds
    rw [List.cons_append, lowerAfter, if_neg (toNat_ne_sigma hc hd), hc, ih hrest]
    simp

theorem lowersTo_toLower {cs : List Char} (h : IsAsciiText cs) :
    LowersTo cs (cs.map Char.toLower) ∧ IsAsciiText (cs.map Char.toLower) := by
  have hchar : ∀ c : Char, c.toNat < 128 →
      lowerChar c = [c.toLower] ∧ c.toLower.toNat < 128 := fun c =>
    ascii_forall (P := fun c => lowerChar c = [c.toLower] ∧ c.toLower.toNat < 128)
      (by decide +kernel)
  induction cs with
  | nil => exact ⟨.nil, h⟩
  | cons c cs ih =>
    obtain ⟨hc, hcs⟩ := List.forall_mem_cons.1 h
    obtain ⟨hlower, hascii⟩ := ih hcs
    exact ⟨.cons (hchar c hc).1 hlower, List.forall_mem_cons.2 ⟨(hchar c hc).2, hascii⟩⟩

/-- ASCII text is lowered to ASCII text, character by character. -/
theorem lowersTo_lowerAfter {cs : List Char} (h : IsAsciiText cs) :
    LowersTo cs (lowerAfter [] cs) ∧ IsAsciiText (lowerAfter [] cs) := by
  obtain ⟨hlower, hascii⟩ := lowersTo_toLower h
  have heq := lowerAfter_of_lowersTo hlower hascii [] []
  rw [List.append_nil, lowerAfter, List.append_nil] at heq
  rw [heq]
  exact ⟨hlower, hascii⟩

/-! ## From a lower case to its text -/

/-- No character vanishes in lower case. -/
theorem lowerAfter_eq_nil {before cs : List Char} (h : lowerAfter before cs = []) : cs = [] := by
  cases cs with
  | nil => rfl
  | cons c cs =>
    have hform : (if c.toNat = 931 then
        [Char.ofNat (if meetsCased before && !meetsCased cs then 962 else 963)]
      else lowerChar c) = [] := (List.append_eq_nil_iff.1 h).1
    unfold lowerChar at hform
    split_ifs at hform

/-- What stands behind the first character of a lowered text. The letter i is the form of a letter
by itself unless a combining point may follow. -/
theorem exists_of_lowerAfter_eq_cons {before cs more : List Char} {d : Char}
    (h : lowerAfter before cs = d :: more) (hd : d.toNat < 128)
    (hmore : d = 'i' → ∀ e ∈ more.head?, e.toNat < 128) :
    ∃ c rest, cs = c :: rest ∧ lowerChar c = [d] ∧ lowerAfter (c :: before) rest = more := by
  cases cs with
  | nil => cases h
  | cons c rest =>
    rw [lowerAfter] at h
    by_cases hsigma : c.toNat = 931
    · rw [if_pos hsigma] at h
      obtain ⟨rfl, -⟩ := List.cons.inj h
      split at hd <;> exact absurd hd (by decide)
    · rw [if_neg hsigma] at h
      by_cases hdotted : c.toNat = 304
      · rw [lowerChar, if_pos hdotted] at h
        obtain ⟨rfl, rfl⟩ := List.cons.inj h
        exact absurd (hmore rfl _ rfl) (by decide)
      · have hform : lowerChar c = [shifted lowerRuns c] := if_neg hdotted
        rw [hform] at h
        obtain ⟨rfl, hrest⟩ := List.cons.inj h
        exact ⟨c, rest, rfl, hform, hrest⟩

/-- **ASCII text at the front of a lowered text comes from the front of the text**, and what follows
it from the rest. -/
theorem exists_lowersTo {before cs ds more : List Char} (h : lowerAfter before cs = ds ++ more)
    (hds : IsAsciiText ds) (hmore : ∀ e ∈ more.head?, e.toNat < 128) :
    ∃ front rest, cs = front ++ rest ∧ LowersTo front ds ∧
      lowerAfter (front.reverse ++ before) rest = more := by
  induction ds generalizing before cs with
  | nil => exact ⟨[], cs, rfl, .nil, h⟩
  | cons d ds ih =>
    obtain ⟨hd, hascii⟩ := List.forall_mem_cons.1 hds
    have hhead : ∀ e ∈ (ds ++ more).head?, e.toNat < 128 := by
      cases ds with
      | nil => exact hmore
      | cons e ds =>
        rintro e' ⟨⟩
        exact hascii e List.mem_cons_self
    obtain ⟨c, rest, rfl, hc, hrest⟩ := exists_of_lowerAfter_eq_cons h hd fun _ => hhead
    obtain ⟨front, rest, rfl, hfront, hbehind⟩ := ih hrest hascii
    exact ⟨c :: front, rest, rfl, .cons hc hfront, by simpa using hbehind⟩

/-- A text whose lower case is ASCII is lowered character by character. -/
theorem lowerAfter_eq_iff {cs ds : List Char} (hds : IsAsciiText ds) :
    lowerAfter [] cs = ds ↔ LowersTo cs ds := by
  constructor
  · intro h
    obtain ⟨front, rest, rfl, hfront, hrest⟩ :=
      exists_lowersTo (h.trans (List.append_nil ds).symm) hds (by simp)
    rw [lowerAfter_eq_nil hrest, List.append_nil]
    exact hfront
  · intro h
    have heq := lowerAfter_of_lowersTo h hds [] []
    rwa [List.append_nil, lowerAfter, List.append_nil] at heq

/-! ## Separators -/

theorem toNat_of_ofNat_eq {n : Nat} {c : Char} (h : Char.ofNat n = c) (hc : c.toNat ≠ 0) :
    c.toNat = n := by
  by_cases hvalid : n.isValidChar
  · rw [← h, Char.ofNat, dif_pos hvalid]
    rfl
  · rw [← h, Char.ofNat, dif_neg hvalid] at hc
    exact absurd rfl hc

theorem shiftOf_cases (n : Nat) (runs : List CaseRun) :
    shiftOf n runs = 0 ∨ ∃ r ∈ runs, r.first ≤ n ∧ n ≤ r.last ∧ shiftOf n runs = r.shift := by
  induction runs with
  | nil => exact .inl rfl
  | cons r rest ih =>
    rw [shiftOf]
    split_ifs with hbefore hin
    · exact .inl rfl
    · exact .inr ⟨r, List.mem_cons_self, by omega, hin.1, rfl⟩
    · rcases ih with hzero | ⟨r', hr', hbounds⟩
      · exact .inl hzero
      · exact .inr ⟨r', List.mem_cons_of_mem r hr', hbounds⟩

/-- **Only an underscore is lowered to an underscore, and only a point to a point.** -/
theorem eq_of_lowerChar_eq {c sep : Char} (hsep : sep = '_' ∨ sep = '.')
    (h : lowerChar c = [sep]) : c = sep := by
  have hruns : ∀ r ∈ lowerRuns, ∀ n ∈ ([46, 95] : List Nat),
      r.last + r.shift < (n : Int) ∨ (n : Int) < r.first + r.shift := by
    decide +kernel
  have hnat : sep.toNat ∈ [46, 95] := by
    rcases hsep with rfl | rfl <;> decide
  have hpos : sep.toNat ≠ 0 := by
    rcases hsep with rfl | rfl <;> decide
  rw [lowerChar] at h
  split at h
  · simp at h
  · have hshifted := toNat_of_ofNat_eq (List.singleton_inj.1 h) hpos
    rw [← Char.toNat_inj]
    rcases shiftOf_cases c.toNat lowerRuns with hzero | ⟨r, hr, hfirst, hlast, hshift⟩
    · rw [hzero] at hshifted
      omega
    · rw [hshift] at hshifted
      have hapart := hruns r hr _ hnat
      omega

end Db2Client.Text
