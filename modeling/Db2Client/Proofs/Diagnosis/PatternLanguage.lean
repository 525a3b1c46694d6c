import Mathlib.Computability.Language
import Db2Client.Diagnosis.Pattern
import Db2Client.Proofs.Text.Folding

/-!
# The languages of patterns

A pattern stands for a set of texts (`language`), and such a text may report a part of itself
(`Reports`). Neither says in which order anything is tried.

Matching lists the ways in which a pattern fits the front of a text, and it forgets none
(`mem_fits_iff`). So a search finds a pattern exactly when a part of the text is in its language,
and it finds the pattern at the first place where it stands (`search_cases`).
-/

namespace Db2Client.Diagnosis

open Text

namespace Pattern

/-! ## Languages -/

/-- The texts that a pattern stands for. -/
def language : Pattern → Language Char
  | .literal word => {m | word.map foldChar = m.map foldChar}
  | .char p => {m | ∃ c, p.holds c ∧ m = [c]}
  | .run p least => {m | least ≤ m.length ∧ ∀ c ∈ m, p.holds c}
  | .cat a b => a.language * b.language
  | .either a b => a.language + b.language
  | .optional a => a.language + 1
  | .group a => a.language

/-- A part of a text, with what stands on both sides of it. -/
structure Part where
  before : List Char
  found : List Char
  behind : List Char

namespace Part

def preceded (m : List Char) (k : Part) : Part := { k with before := m ++ k.before }

def followed (m : List Char) (k : Part) : Part := { k with behind := k.behind ++ m }

end Part

/-- A text that a pattern stands for, and the part that is reported, if any. -/
inductive Reports : Pattern → List Char → Option Part → Prop
  | literal {word m : List Char} :
      word.map foldChar = m.map foldChar → Reports (.literal word) m none
  | char {p : CharClass} {c : Char} : p.holds c → Reports (.char p) [c] none
  | run {p : CharClass} {least : Nat} {m : List Char} :
      least ≤ m.length → (∀ c ∈ m, p.holds c) → Reports (.run p least) m none
  | cat {a b : Pattern} {m n : List Char} {k l : Option Part} :
      Reports a m k → Reports b n l →
        Reports (.cat a b) (m ++ n) ((k.map (·.followed n)).or (l.map (·.preceded m)))
  | left {a b : Pattern} {m : List Char} {k : Option Part} :
      Reports a m k → Reports (.either a b) m k
  | right {a b : Pattern} {m : List Char} {k : Option Part} :
      Reports b m k → Reports (.either a b) m k
  | present {a : Pattern} {m : List Char} {k : Option Part} :
      Reports a m k → Reports (.optional a) m k
  | absent {a : Pattern} : Reports (.optional a) [] none
  | group {a : Pattern} {m : List Char} {k : Option Part} :
      Reports a m k → Reports (.group a) m (some ⟨[], m, []⟩)

theorem mem_language_iff {p : Pattern} {m : List Char} :
    m ∈ p.language ↔ ∃ k, p.Reports m k := by
  constructor
  · intro h
    induction p generalizing m with
    | literal word => exact ⟨none, .literal h⟩
    | char p =>
      obtain ⟨c, hc, rfl⟩ := h
      exact ⟨none, .char hc⟩
    | run p least => exact ⟨none, .run h.1 h.2⟩
    | cat a b iha ihb =>
      obtain ⟨m, hm, n, hn, rfl⟩ := Language.mem_mul.1 h
      obtain ⟨k, hk⟩ := iha hm
      obtain ⟨l, hl⟩ := ihb hn
      exact ⟨_, .cat hk hl⟩
    | either a b iha ihb =>
      rcases (Language.mem_add _ _ _).1 h with h | h
      · exact (iha h).imp fun _ => .left
      · exact (ihb h).imp fun _ => .right
    | optional a iha =>
      rcases (Language.mem_add _ _ _).1 h with h | h
      · exact (iha h).imp fun _ => .present
      · obtain rfl := (Language.mem_one m).1 h
        exact ⟨none, .absent⟩
    | group a iha =>
      obtain ⟨k, hk⟩ := iha h
      exact ⟨_, .group hk⟩
  · rintro ⟨k, h⟩
    induction h with
    | literal h => exact h
    | char h => exact ⟨_, h, rfl⟩
    | run hlength h => exact ⟨hlength, h⟩
    | cat _ _ iha ihb => exact Language.mem_mul.2 ⟨_, iha, _, ihb, rfl⟩
    | left _ ih => exact (Language.mem_add _ _ _).2 (.inl ih)
    | right _ ih => exact (Language.mem_add _ _ _).2 (.inr ih)
    | present _ ih => exact (Language.mem_add _ _ _).2 (.inl ih)
    | absent => exact (Language.mem_add _ _ _).2 (.inr ((Language.mem_one _).2 rfl))
    | group _ ih => exact ih

theorem Reports.split {p : Pattern} {m : List Char} {k : Part} (h : p.Reports m (some k)) :
    m = k.before ++ (k.found ++ k.behind) := by
  generalize hk : some k = part at h
  induction h generalizing k with
  | literal | char | run | absent => cases hk
  | @cat a b m n k₁ k₂ _ _ iha ihb =>
    cases k₁ with
    | some k₁ =>
      obtain rfl : k = k₁.followed n := Option.some.inj hk
      simp [iha rfl, Part.followed]
    | none =>
      obtain ⟨k₂, rfl, rfl⟩ : ∃ l, k₂ = some l ∧ l.preceded m = k :=
        Option.map_eq_some_iff.1 hk.symm
      simp [ihb rfl, Part.preceded]
  | left _ ih => exact ih hk
  | right _ ih => exact ih hk
  | present _ ih => exact ih hk
  | group =>
    cases hk
    simp

/-! ## Matching -/

theorem mem_restsAfter_cons {p : CharClass} {least : Nat} {c : Char} {cs rest : List Char} :
    rest ∈ (restsAfter p (c :: cs)).drop least ↔
      least = 0 ∧ rest = c :: cs ∨ p.holds c ∧ rest ∈ (restsAfter p cs).drop (least - 1) := by
  rw [restsAfter]
  cases least <;> split <;> simp [*]

/-- What is left behind a run of characters. -/
theorem mem_restsAfter_iff {p : CharClass} {least : Nat} {cs rest : List Char} :
    rest ∈ (restsAfter p cs).drop least ↔
      ∃ m, (least ≤ m.length ∧ ∀ c ∈ m, p.holds c) ∧ cs = m ++ rest := by
  induction cs generalizing least with
  | nil =>
    constructor
    · intro h
      obtain rfl : rest = [] := List.mem_singleton.1 (List.mem_of_mem_drop h)
      cases least with
      | zero => exact ⟨[], ⟨Nat.le_refl 0, nofun⟩, rfl⟩
      | succ least => simp [restsAfter] at h
    · rintro ⟨m, ⟨hleast, -⟩, hcs⟩
      obtain ⟨rfl, rfl⟩ := List.append_eq_nil_iff.1 hcs.symm
      obtain rfl := Nat.le_zero.1 hleast
      simp [restsAfter]
  | cons c cs ih =>
    -- The run is empty, or it begins with `c` and needs one character less behind it.
    rw [mem_restsAfter_cons]
    constructor
    · rintro (⟨rfl, rfl⟩ | ⟨hc, h⟩)
      · exact ⟨[], ⟨Nat.le_refl 0, nofun⟩, rfl⟩
      · obtain ⟨m, ⟨hleast, hm⟩, rfl⟩ := ih.1 h
        refine ⟨c :: m, ⟨?_, List.forall_mem_cons.2 ⟨hc, hm⟩⟩, rfl⟩
        rw [List.length_cons]
        omega
    · rintro ⟨m, ⟨hleast, hm⟩, hcs⟩
      cases m with
      | nil => exact .inl ⟨Nat.le_zero.1 hleast, hcs.symm⟩
      | cons d m =>
        obtain ⟨rfl, rfl⟩ := List.cons.inj hcs
        obtain ⟨hc, hm⟩ := List.forall_mem_cons.1 hm
        exact .inr ⟨hc, ih.2 ⟨m, ⟨Nat.sub_le_of_le_add hleast, hm⟩, rfl⟩⟩

/-- What a fit says about a part that was reported. -/
def Part.mark (rest : List Char) (k : Part) : List Char × List Char :=
  (k.found ++ (k.behind ++ rest), k.behind ++ rest)

theorem map_mark_cat (k l : Option Part) (m n rest : List Char) :
    ((k.map (·.followed n)).or (l.map (·.preceded m))).map (·.mark rest) =
      (k.map (·.mark (n ++ rest))).or (l.map (·.mark rest)) := by
  have hfollowed : (fun k : Part => (k.followed n).mark rest) = (·.mark (n ++ rest)) := by
    funext k
    simp [Part.mark, Part.followed]
  have hpreceded : (fun k : Part => (k.preceded m).mark rest) = (·.mark rest) := rfl
  rw [Option.map_or, Option.map_map, Option.map_map, Function.comp_def, Function.comp_def,
    hfollowed, hpreceded]

/-- **Matching is sound and complete.** The fits at the front of a text are the texts of the
language that it starts with, each with what it reports. -/
theorem mem_fits_iff {p : Pattern} {cs : List Char} {f : Fit} :
    f ∈ p.fits cs ↔
      ∃ m k, p.Reports m k ∧ cs = m ++ f.rest ∧ f.mark = k.map (·.mark f.rest) := by
  constructor
  · intro h
    induction p generalizing cs f with
    | literal word =>
      obtain ⟨rest, hrest, rfl⟩ : ∃ rest, afterFolded? word cs = some rest ∧ { rest } = f := by
        simpa [fits] using h
      obtain ⟨m, hm, rfl⟩ := afterFolded?_eq_some_iff.1 hrest
      exact ⟨m, none, .literal hm, rfl, rfl⟩
    | char p =>
      cases cs with
      | nil => cases h
      | cons c rest =>
        obtain ⟨hc, rfl⟩ : p.holds c ∧ f = { rest } := by
          simpa [fits] using h
        exact ⟨[c], none, .char hc, rfl, rfl⟩
    | run p least =>
      obtain ⟨rest, hrest, rfl⟩ := List.mem_map.1 h
      obtain ⟨m, ⟨hleast, hm⟩, rfl⟩ := mem_restsAfter_iff.1 (List.mem_reverse.1 hrest)
      exact ⟨m, none, .run hleast hm, rfl, rfl⟩
    | cat a b iha ihb =>
      -- The second part is matched in what the first one leaves.
      obtain ⟨f, hf, hmap⟩ := List.mem_flatMap.1 h
      obtain ⟨g, hg, rfl⟩ := List.mem_map.1 hmap
      obtain ⟨m, k, hk, rfl, hkmark⟩ := iha hf
      obtain ⟨n, l, hl, hrest, hlmark⟩ := ihb hg
      refine ⟨m ++ n, _, .cat hk hl, by rw [hrest, List.append_assoc], ?_⟩
      rw [map_mark_cat, hkmark, hlmark, hrest]
    | either a b iha ihb =>
      rcases List.mem_append.1 h with h | h
      · obtain ⟨m, k, hk, hsplit⟩ := iha h
        exact ⟨m, k, .left hk, hsplit⟩
      · obtain ⟨m, k, hk, hsplit⟩ := ihb h
        exact ⟨m, k, .right hk, hsplit⟩
    | optional a iha =>
      rcases List.mem_append.1 h with h | h
      · obtain ⟨m, k, hk, hsplit⟩ := iha h
        exact ⟨m, k, .present hk, hsplit⟩
      · obtain rfl := List.mem_singleton.1 h
        exact ⟨[], none, .absent, rfl, rfl⟩
    | group a iha =>
      obtain ⟨f, hf, rfl⟩ := List.mem_map.1 h
      obtain ⟨m, k, hk, rfl, -⟩ := iha hf
      exact ⟨m, _, .group hk, rfl, rfl⟩
  · rintro ⟨m, k, h, rfl, hmark⟩
    obtain ⟨mark, rest⟩ := f
    dsimp only at hmark ⊢
    subst hmark
    -- Whatever follows the text, a fit is found along its derivation.
    induction h generalizing rest with
    | @literal word m h =>
      simp [fits, afterFolded?_eq_some_iff.2 ⟨m, h, rfl⟩]
    | char h => simp [fits, h]
    | run hlength h =>
      refine List.mem_map.2 ⟨rest, List.mem_reverse.2 ?_, rfl⟩
      exact mem_restsAfter_iff.2 ⟨_, ⟨hlength, h⟩, rfl⟩
    | @cat a b m n k l _ _ iha ihb =>
      rw [List.append_assoc, map_mark_cat]
      exact List.mem_flatMap.2 ⟨_, iha (n ++ rest), List.mem_map.2 ⟨_, ihb rest, rfl⟩⟩
    | left _ ih => exact List.mem_append_left _ (ih rest)
    | right _ ih => exact List.mem_append_right _ (ih rest)
    | present _ ih => exact List.mem_append_left _ (ih rest)
    | absent => exact List.mem_append_right _ (List.mem_singleton_self _)
    | group _ ih => exact List.mem_map.2 ⟨_, ih rest, rfl⟩

/-! ## Searching -/

/-- Some part of the text is in the language. -/
def Occurs (p : Pattern) (cs : List Char) : Prop := ∃ m ∈ p.language, m <:+: cs

/-- The first place of a text where a part of it is in the language, and what is reported there. -/
structure FirstAt (p : Pattern) (cs before m after : List Char) (k : Option Part) : Prop where
  split : cs = before ++ (m ++ after)
  reports : p.Reports m k
  first : ∀ before' m' after', cs = before' ++ (m' ++ after') → m' ∈ p.language →
    before.length ≤ before'.length

theorem FirstAt.occurs {p : Pattern} {cs before m after : List Char} {k : Option Part}
    (h : p.FirstAt cs before m after k) : p.Occurs cs :=
  ⟨m, mem_language_iff.2 ⟨k, h.reports⟩, before, after, by rw [h.split, List.append_assoc]⟩

theorem fits_eq_nil_iff {p : Pattern} {cs : List Char} :
    p.fits cs = [] ↔ ∀ m after, cs = m ++ after → m ∉ p.language := by
  rw [List.eq_nil_iff_forall_not_mem]
  constructor
  · intro h m after hcs hm
    obtain ⟨k, hk⟩ := mem_language_iff.1 hm
    exact h ⟨k.map (·.mark after), after⟩ (mem_fits_iff.2 ⟨m, k, hk, hcs, rfl⟩)
  · intro h f hf
    obtain ⟨m, k, hk, hcs, -⟩ := mem_fits_iff.1 hf
    exact h m f.rest hcs (mem_language_iff.2 ⟨k, hk⟩)

theorem found_eq {f : Fit} {k : Option Part} (h : f.mark = k.map (·.mark f.rest)) :
    f.found = k.map Part.found := by
  rw [Fit.found, h, Option.map_map]
  congr 1
  funext k
  simp [Part.mark]

theorem firstAt_of_head? {p : Pattern} {cs : List Char} {f : Fit}
    (h : (p.fits cs).head? = some f) :
    ∃ m after k, f.found = k.map Part.found ∧ p.FirstAt cs [] m after k := by
  obtain ⟨m, k, hk, hcs, hmark⟩ := mem_fits_iff.1 (List.mem_of_head? h)
  exact ⟨m, f.rest, k, found_eq hmark, hcs, hk, fun _ _ _ _ _ => Nat.zero_le _⟩

/-- Behind a character where nothing fits the first place stays the first. -/
theorem FirstAt.cons {p : Pattern} {c : Char} {cs before m after : List Char} {k : Option Part}
    (h : p.FirstAt cs before m after k) (hnone : p.fits (c :: cs) = []) :
    p.FirstAt (c :: cs) (c :: before) m after k := by
  refine ⟨by rw [h.split, List.cons_append], h.reports, fun before' m' after' hcs hm' => ?_⟩
  cases before' with
  | nil => exact absurd hm' (fits_eq_nil_iff.1 hnone m' after' hcs)
  | cons d before' =>
    have hrest := (List.cons.inj hcs).2
    exact Nat.succ_le_succ (h.first before' m' after' hrest hm')

/-- **Searching.** A search finds the first place where a part of the text is in the language, and
it finds nothing when no part is. -/
theorem search_cases (p : Pattern) (cs : List Char) :
    (∃ f before m after k, p.search cs = some f ∧ f.found = k.map Part.found ∧
      p.FirstAt cs before m after k) ∨
      p.search cs = none ∧ ¬ p.Occurs cs := by
  induction cs with
  | nil =>
    rw [search]
    cases hhead : (p.fits []).head? with
    | some f =>
      obtain ⟨m, after, k, hfound, hfirst⟩ := firstAt_of_head? hhead
      exact .inl ⟨f, [], m, after, k, rfl, hfound, hfirst⟩
    | none =>
      refine .inr ⟨rfl, ?_⟩
      rintro ⟨m, hm, hpart⟩
      obtain rfl := List.eq_nil_of_infix_nil hpart
      exact fits_eq_nil_iff.1 (List.head?_eq_none_iff.1 hhead) [] [] rfl hm
  | cons c cs ih =>
    rw [search]
    cases hhead : (p.fits (c :: cs)).head? with
    | some f =>
      obtain ⟨m, after, k, hfound, hfirst⟩ := firstAt_of_head? hhead
      exact .inl ⟨f, [], m, after, k, rfl, hfound, hfirst⟩
    | none =>
      -- Nothing fits here, so the first place is the one that is found further on.
      have hnone := List.head?_eq_none_iff.1 hhead
      rcases ih with ⟨f, before, m, after, k, hsearch, hfound, hfirst⟩ | ⟨hsearch, hoccurs⟩
      · exact .inl ⟨f, c :: before, m, after, k, hsearch, hfound, hfirst.cons hnone⟩
      · refine .inr ⟨hsearch, ?_⟩
        rintro ⟨m, hm, hpart⟩
        rcases List.infix_cons_iff.1 hpart with ⟨after, hfront⟩ | hpart
        · exact fits_eq_nil_iff.1 hnone m after hfront.symm hm
        · exact hoccurs ⟨m, hm, hpart⟩

end Pattern
end Db2Client.Diagnosis
