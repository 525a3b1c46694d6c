import Db2Client.Proofs.Diagnosis.PatternLanguage
import Db2Client.Proofs.Text.Blank

/-!
# Words that are reported

A pattern may report a word that stands between characters of no word. Which word that is does not
depend on how the pattern is matched: it is the first one behind what the pattern begins with
(`Reports.found_eq`). Alternatives that report nothing keep this up as long as they start with
another letter (`ReportsWord.either`).
-/

namespace Db2Client.Diagnosis

open Text

namespace Pattern

variable {a b x y : Pattern} {m : List Char} {k : Option Part}

/-! ## Silent patterns -/

/-- No part is reported. -/
def IsSilent : Pattern → Prop
  | .cat a b | .either a b => a.IsSilent ∧ b.IsSilent
  | .optional a => a.IsSilent
  | .group _ => False
  | _ => True

theorem Reports.eq_none {p : Pattern} (h : p.Reports m k) (hp : p.IsSilent) : k = none := by
  induction h with
  | literal | char | run | absent => rfl
  | cat _ _ iha ihb => rw [iha hp.1, ihb hp.2]; rfl
  | left _ ih => exact ih hp.1
  | right _ ih => exact ih hp.2
  | present _ ih => exact ih hp
  | group => exact hp.elim

/-! ## Reported words -/

/-- The first word behind `n` characters of a text. -/
def wordBehind (n : Nat) (cs : List Char) : List Char :=
  ((cs.drop n).dropWhile fun c => !wordSet.contains c).takeWhile wordSet.contains

/-- Nothing is reported, and no character of a word is passed over. -/
def IsGap (p : Pattern) : Prop :=
  p.IsSilent ∧ ∀ m ∈ p.language, ∀ c ∈ m, wordSet.contains c = false

/-- Nothing is reported, and there is a first character, which stands in no word. -/
def EndsWord (p : Pattern) : Prop :=
  p.IsSilent ∧ ∀ m ∈ p.language, ∃ c, m.head? = some c ∧ wordSet.contains c = false

theorem wordBehind_eq {gap word rest : List Char} (hgap : ∀ c ∈ gap, wordSet.contains c = false)
    (hne : word ≠ []) (hword : ∀ c ∈ word, wordSet.contains c = true)
    (hrest : ∀ c ∈ rest.head?, wordSet.contains c = false) (front : List Char) :
    wordBehind front.length (front ++ (gap ++ (word ++ rest))) = word := by
  have hhead : ∀ c ∈ (word ++ rest).head?, (!wordSet.contains c) = false := by
    intro c hc
    rw [List.head?_append_of_ne_nil word hne] at hc
    simp [hword c (List.mem_of_mem_head? hc)]
  rw [wordBehind, List.drop_left, dropWhile_append_of_head? (by simpa using hgap) hhead,
    takeWhile_append_of_head? hword hrest]

/-- A word that is reported between a gap and an end is the first one behind the lead. -/
theorem Reports.found_eq {lead : List Char}
    (h : (Pattern.cat (.literal lead) (.cat x (.cat (.group (.run .word 1)) y))).Reports m k)
    (hx : x.IsGap) (hy : y.EndsWord) (after : List Char) :
    ∃ part, k = some part ∧ part.found = wordBehind lead.length (m ++ after) ∧
      part.found ≠ [] ∧ ∀ c ∈ part.found, wordSet.contains c = true := by
  -- The text is cut at the four patterns, and only the third of them reports anything.
  cases h with | @cat _ _ front _ k₁ _ hlead h =>
  cases h with | @cat _ _ gap _ k₂ _ hgap h =>
  cases h with | @cat _ _ word behind k₃ k₄ hgroup hend =>
  cases hgroup with | group hrun =>
  obtain rfl : k₁ = none := hlead.eq_none trivial
  obtain rfl : k₂ = none := hgap.eq_none hx.1
  obtain rfl : k₄ = none := hend.eq_none hy.1
  have hlength : lead.length = front.length := by
    cases hlead with | literal hfold => simpa using congrArg List.length hfold
  cases hrun with | run hone hword =>
  have hne : word ≠ [] := List.ne_nil_of_length_pos hone
  have hgapChars : ∀ c ∈ gap, wordSet.contains c = false := hx.2 gap (mem_language_iff.2 ⟨_, hgap⟩)
  have hbehind : ∀ c ∈ (behind ++ after).head?, wordSet.contains c = false := by
    obtain ⟨d, hd, hnone⟩ := hy.2 behind (mem_language_iff.2 ⟨_, hend⟩)
    intro c hc
    rw [List.head?_append, hd, Option.some_or, Option.mem_some_iff] at hc
    rwa [← hc]
  refine ⟨_, rfl, ?_, hne, hword⟩
  rw [hlength, List.append_assoc, List.append_assoc, List.append_assoc]
  exact (wordBehind_eq hgapChars hne hword hbehind front).symm

/-! ## Gaps and ends -/

theorem isGap_nonWord (least : Nat) : (Pattern.run .nonWord least).IsGap := by
  refine ⟨trivial, ?_⟩
  rintro m ⟨-, hm⟩ c hc
  simpa [CharClass.holds] using hm c hc

theorem isGap_optional {p : CharClass} (hp : ∀ c, p.holds c → wordSet.contains c = false) :
    (Pattern.optional (.char p)).IsGap := by
  refine ⟨trivial, fun m hm c hc => ?_⟩
  rcases (Language.mem_add _ _ _).1 hm with ⟨d, hd, rfl⟩ | hm
  · obtain rfl := List.mem_singleton.1 hc
    exact hp c hd
  · obtain rfl := (Language.mem_one m).1 hm
    cases hc

theorem head?_of_literal {c : Char} {word m : List Char}
    (h : m ∈ (Pattern.literal (c :: word)).language) :
    ∃ d, m.head? = some d ∧ foldChar d = foldChar c := by
  have hfold : foldChar c :: word.map foldChar = m.map foldChar := h
  cases m with
  | nil => cases hfold
  | cons d m => exact ⟨d, rfl, (List.cons.inj hfold).1.symm⟩

theorem endsWord_space (word : List Char) : (Pattern.literal (' ' :: word)).EndsWord := by
  refine ⟨trivial, fun m hm => ?_⟩
  obtain ⟨d, hd, hfold⟩ := head?_of_literal hm
  obtain rfl : d = ' ' := eq_of_foldChar hfold (by decide)
  exact ⟨' ', hd, by decide +kernel⟩

theorem EndsWord.cat (ha : a.EndsWord) (hb : b.IsSilent) : (Pattern.cat a b).EndsWord := by
  refine ⟨⟨ha.1, hb⟩, fun m hm => ?_⟩
  obtain ⟨front, hfront, n, -, rfl⟩ := Language.mem_mul.1 hm
  obtain ⟨c, hc, hnone⟩ := ha.2 front hfront
  exact ⟨c, by rw [List.head?_append, hc, Option.some_or], hnone⟩

theorem EndsWord.behind_gap (hb : b.EndsWord) (ha : a.IsGap) : (Pattern.cat a b).EndsWord := by
  refine ⟨⟨ha.1, hb.1⟩, fun m hm => ?_⟩
  obtain ⟨gap, hgap, n, hn, rfl⟩ := Language.mem_mul.1 hm
  cases gap with
  | nil => exact hb.2 n hn
  | cons c gap => exact ⟨c, rfl, ha.2 _ hgap c List.mem_cons_self⟩

/-! ## Patterns that name a word -/

/-- What is reported is a word or nothing, and it is decided by the text from where the pattern
stands. -/
def ReportsWord (p : Pattern) : Prop :=
  (∃ name : List Char → Option (List Char),
    ∀ m k after, p.Reports m k → k.map Part.found = name (m ++ after)) ∧
  ∀ m part, p.Reports m (some part) → part.found ≠ [] ∧ ∀ c ∈ part.found, wordSet.contains c = true

theorem reportsWord_cat (lead : List Char) (hx : x.IsGap) (hy : y.EndsWord) :
    (Pattern.cat (.literal lead) (.cat x (.cat (.group (.run .word 1)) y))).ReportsWord := by
  refine ⟨⟨fun s => some (wordBehind lead.length s), fun m k after h => ?_⟩, fun m part h => ?_⟩
  · obtain ⟨part, rfl, hfound, -⟩ := h.found_eq hx hy after
    rw [Option.map_some, hfound]
  · obtain ⟨_, hpart, -, hword⟩ := h.found_eq hx hy []
    obtain rfl := Option.some.inj hpart
    exact hword

/-- The text starts with a character, in either case. -/
def StartsWith (c : Char) (cs : List Char) : Prop := cs.head?.map foldChar = some (foldChar c)

/-- Nothing is reported where the text starts with the character. -/
def QuietAt (c : Char) (p : Pattern) : Prop :=
  ∀ m k after, p.Reports m k → StartsWith c (m ++ after) → k = none

theorem startsWith_of_literal {c : Char} {word : List Char}
    (h : (Pattern.literal (c :: word)).Reports m k) (after : List Char) :
    StartsWith c (m ++ after) := by
  obtain ⟨d, hd, hfold⟩ := head?_of_literal (mem_language_iff.2 ⟨k, h⟩)
  rw [StartsWith, List.head?_append, hd, Option.some_or, Option.map_some, hfold]

theorem quietAt_literal (c : Char) (word : List Char) : QuietAt c (.literal word) :=
  fun _ _ _ h _ => h.eq_none trivial

theorem QuietAt.either {c : Char} (ha : QuietAt c a) (hb : QuietAt c b) :
    QuietAt c (.either a b) := by
  intro m k after h
  cases h with
  | left h => exact ha m k after h
  | right h => exact hb m k after h

theorem quietAt_cat {c d : Char} (hcd : foldChar c ≠ foldChar d) (lead : List Char)
    (b : Pattern) : QuietAt c (.cat (.literal (d :: lead)) b) := by
  intro m k after h hstart
  cases h with | @cat _ _ front behind _ _ hlead _ =>
  have hother : StartsWith d (front ++ behind ++ after) := by
    rw [List.append_assoc]
    exact startsWith_of_literal hlead (behind ++ after)
  exact absurd (Option.some.inj (hstart.symm.trans hother)) hcd

theorem ReportsWord.either {c : Char} (h : b.ReportsWord) (hquiet : QuietAt c b)
    (word : List Char) : (Pattern.either (.literal (c :: word)) b).ReportsWord := by
  classical
  obtain ⟨⟨name, hname⟩, hword⟩ := h
  refine ⟨⟨fun s => if StartsWith c s then none else name s, fun m k after h => ?_⟩,
    fun m part h => ?_⟩
  · dsimp only
    cases h with
    | left h =>
      rw [if_pos (startsWith_of_literal h after), h.eq_none trivial, Option.map_none]
    | right h =>
      by_cases hstart : StartsWith c (m ++ after)
      · rw [if_pos hstart, hquiet m k after h hstart, Option.map_none]
      · rw [if_neg hstart, hname m k after h]
  · cases h with
    | left h => cases h.eq_none trivial
    | right h => exact hword m part h

end Pattern

end Db2Client.Diagnosis
