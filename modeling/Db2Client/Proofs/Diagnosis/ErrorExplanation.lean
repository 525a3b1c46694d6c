import Db2Client.Diagnosis.ConnectionError
import Db2Client.Proofs.Diagnosis.ReportedWord

/-!
# How a connection error is explained

An error is explained by the first known error whose pattern occurs in its text, and in general
words when none does (`among_cases`).

Two of the known errors name what was found. Their patterns report a word that depends only on where
they stand in the text (`reportsWord_of_naming`), so the message does not depend on how they are
matched there (`text_unique`). Nothing in the messages opens a brace, so no placeholder is left
over.

Main result: `explained_by_first_known`.
-/

namespace Db2Client.Diagnosis

open Text

/-! ## Messages -/

/-- What a message says about the part that was reported. A wording that names something names the
part, a word, or puts a question mark when there is none. -/
inductive Wording.Says : Wording → Option Pattern.Part → String → Prop
  | fixed (text : String) (k : Option Pattern.Part) : Says (.fixed text) k text
  | named (before after : String) {k : Pattern.Part} : k.found ≠ [] →
      (∀ c ∈ k.found, wordSet.contains c) →
      Says (.naming before after) (some k) (before ++ String.ofList k.found ++ after)
  | unnamed (before after : String) : Says (.naming before after) none (before ++ "?" ++ after)

open Pattern in
theorem isGap_quoteMark : quoteMark.IsGap := by
  refine isGap_optional fun c hc => ?_
  have hquote : c = '\'' ∨ c = '"' := by simpa [CharClass.holds] using hc
  rcases hquote with rfl | rfl
  · decide +kernel
  · decide +kernel

open Pattern in
/-- A wording that names something belongs to a pattern that reports a word. -/
theorem reportsWord_of_naming {e : KnownError} (he : e ∈ knownErrors) {before after : String}
    (h : e.wording = .naming before after) : e.pattern.ReportsWord := by
  simp only [knownErrors, db2Errors, genericErrors, List.cons_append, List.nil_append,
    List.mem_cons, List.not_mem_nil, or_false] at he
  rcases he with rfl | rfl | rfl | rfl | rfl | rfl | rfl | rfl
  · cases h
  · have hend := (endsWord_space "not found".toList).behind_gap isGap_quoteMark
    have hcat := reportsWord_cat "relational database ".toList isGap_quoteMark hend
    have hfold : foldChar 'S' ≠ foldChar 'r' := by decide
    have hquiet := quietAt_cat hfold "elational database ".toList
    exact (hcat.either (hquiet _) "QL0950".toList).either
      ((quietAt_literal 'S' "SQL0950".toList).either (hquiet _)) "QL1013N".toList
  · cases h
  · cases h
  · have hsilent : (Pattern.cat (.run .nonBlank 1) (words " type *LIB")).IsSilent :=
      ⟨trivial, trivial⟩
    have hend := (endsWord_space "in ".toList).cat hsilent
    exact reportsWord_cat "SQL0204".toList (isGap_nonWord 0) hend
  · cases h
  · cases h
  · cases h

theorem says_text {w : Wording} {p : Pattern} {m : List Char} {k : Option Pattern.Part}
    (hword : ∀ before after, w = .naming before after → p.ReportsWord) (hk : p.Reports m k) :
    w.Says k (w.text (k.map Pattern.Part.found)) := by
  cases w with
  | fixed text => exact .fixed text k
  | naming before after =>
    cases k with
    | none => exact .unnamed before after
    | some part =>
      obtain ⟨hne, hchars⟩ := (hword before after rfl).2 m part hk
      have hsays := Wording.Says.named before after hne hchars
      obtain ⟨c, cs, hfound⟩ := List.exists_cons_of_ne_nil hne
      rw [hfound] at hsays
      rwa [Option.map_some, hfound]

/-- Where a pattern first stands in a text, all its matches give the same message. -/
theorem text_unique {w : Wording} {p : Pattern} {cs before m after before' m' after' : List Char}
    {k k' : Option Pattern.Part}
    (hword : ∀ before after, w = .naming before after → p.ReportsWord)
    (h : p.FirstAt cs before m after k) (h' : p.FirstAt cs before' m' after' k') :
    w.text (k.map Pattern.Part.found) = w.text (k'.map Pattern.Part.found) := by
  cases w with
  | fixed text => rfl
  | naming front behind =>
    obtain ⟨name, hname⟩ := (hword front behind rfl).1
    have hlength : before.length = before'.length :=
      Nat.le_antisymm (h.first _ _ _ h'.split (Pattern.mem_language_iff.2 ⟨k', h'.reports⟩))
        (h'.first _ _ _ h.split (Pattern.mem_language_iff.2 ⟨k, h.reports⟩))
    have hplace : m ++ after = m' ++ after' :=
      (List.append_inj (h.split.symm.trans h'.split) hlength).2
    rw [hname m k after h.reports, hname m' k' after' h'.reports, hplace]

/-- The texts that a message is made of, apart from what was found. -/
def Wording.texts : Wording → List String
  | .fixed text => [text]
  | .naming before after => [before, after]

theorem Wording.Says.no_brace {w : Wording} {k : Option Pattern.Part} {message : String}
    (h : w.Says k message) (hw : ∀ t ∈ w.texts, '{' ∉ t.toList) : '{' ∉ message.toList := by
  cases h with
  | fixed => exact hw _ (List.mem_singleton_self _)
  | @named before after k _ hword =>
    obtain ⟨hbefore, hafter⟩ : '{' ∉ before.toList ∧ '{' ∉ after.toList := by simpa [texts] using hw
    have hfound : '{' ∉ k.found := fun hmem => absurd (hword '{' hmem) (by decide +kernel)
    simp [hbefore, hafter, hfound]
  | unnamed before after =>
    obtain ⟨hbefore, hafter⟩ : '{' ∉ before.toList ∧ '{' ∉ after.toList := by simpa [texts] using hw
    simp [hbefore, hafter]

/-! ## Explanations -/

/-- The explanation of a text that is not known. -/
def generalExplanation (text : String) : Explanation where
  title := "Connection error"
  message := "An error occurred while connecting to the DB2 server."
  suggestion := "Check the connection settings and try again."
  errorText := text

/-- **The first error that occurs explains the text**, or none occurs. -/
theorem among_cases (text : String) (errors : List KnownError) :
    (∃ earlier e later before m after k, errors = earlier ++ e :: later ∧
      (∀ other ∈ earlier, ¬ other.pattern.Occurs text.toList) ∧
      e.pattern.FirstAt text.toList before m after k ∧
      Explanation.among text errors =
        ⟨e.title, e.wording.text (k.map Pattern.Part.found), e.suggestion, text⟩) ∨
    (∀ e ∈ errors, ¬ e.pattern.Occurs text.toList) ∧
      Explanation.among text errors = generalExplanation text := by
  induction errors with
  | nil => exact .inr ⟨nofun, rfl⟩
  | cons e rest ih =>
    rw [Explanation.among]
    rcases e.pattern.search_cases text.toList with
      ⟨f, before, m, after, k, hsearch, hfound, hfirst⟩ | ⟨hsearch, hnone⟩
    · rw [hsearch]
      refine .inl ⟨[], e, rest, before, m, after, k, rfl, nofun, hfirst, ?_⟩
      rw [← hfound]
    · rw [hsearch]
      rcases ih with ⟨earlier, e', later, before, m, after, k, rfl, hearlier, hfirst, heq⟩ |
        ⟨hrest, heq⟩
      · exact .inl ⟨e :: earlier, e', later, before, m, after, k, rfl,
          List.forall_mem_cons.2 ⟨hnone, hearlier⟩, hfirst, heq⟩
      · exact .inr ⟨List.forall_mem_cons.2 ⟨hnone, hrest⟩, heq⟩

/-- How a text is explained by a known error. Its pattern stands in the text, and the message speaks
of the part that is reported where it stands first. -/
structure KnownError.Explains (e : KnownError) (text : String) (x : Explanation) : Prop where
  exists_first : ∃ before m after k, e.pattern.FirstAt text.toList before m after k
  title_eq : x.title = e.title
  suggestion_eq : x.suggestion = e.suggestion
  message : ∀ before m after k, e.pattern.FirstAt text.toList before m after k →
    e.wording.Says k x.message ∧
    ∀ part ∈ k, text.toList = before ++ (part.before ++ (part.found ++ (part.behind ++ after)))

theorem explains_of_firstAt {e : KnownError} (he : e ∈ knownErrors) {text : String}
    {before m after : List Char} {k : Option Pattern.Part}
    (h : e.pattern.FirstAt text.toList before m after k) :
    e.Explains text
      ⟨e.title, e.wording.text (k.map Pattern.Part.found), e.suggestion, text⟩ := by
  have hword : ∀ before after, e.wording = .naming before after → e.pattern.ReportsWord :=
    fun before after hnaming => reportsWord_of_naming he hnaming
  refine ⟨⟨before, m, after, k, h⟩, rfl, rfl, fun before' m' after' k' h' => ⟨?_, ?_⟩⟩
  · dsimp only
    rw [text_unique hword h h']
    exact says_text hword h'.reports
  · rintro part rfl
    rw [h'.split, h'.reports.split, List.append_assoc, List.append_assoc]

theorem ofText_cases (text : String) :
    (∃ earlier e later, knownErrors = earlier ++ e :: later ∧
      (∀ other ∈ earlier, ¬ other.pattern.Occurs text.toList) ∧
      e.Explains text (Explanation.ofText text)) ∨
    (∀ e ∈ knownErrors, ¬ e.pattern.Occurs text.toList) ∧
      Explanation.ofText text = generalExplanation text := by
  rcases among_cases text knownErrors with
    ⟨earlier, e, later, before, m, after, k, herrors, hearlier, hfirst, heq⟩ | hnone
  · have he : e ∈ knownErrors := by simp [herrors]
    refine .inl ⟨earlier, e, later, herrors, hearlier, ?_⟩
    rw [Explanation.ofText, heq]
    exact explains_of_firstAt he hfirst
  · exact .inr hnone

theorem errorText_ofText (text : String) : (Explanation.ofText text).errorText = text := by
  rcases among_cases text knownErrors with ⟨_, _, _, _, _, _, _, -, -, -, heq⟩ | ⟨-, heq⟩
  · rw [Explanation.ofText, heq]
  · rw [Explanation.ofText, heq]
    rfl

theorem title_ofText_general_iff (text : String) :
    (Explanation.ofText text).title = "Connection error" ↔
      ∀ e ∈ knownErrors, ¬ e.pattern.Occurs text.toList := by
  have htitles : ∀ e ∈ knownErrors, e.title ≠ "Connection error" := by decide
  rcases ofText_cases text with ⟨earlier, e, later, herrors, -, hexplains⟩ | ⟨hnone, heq⟩
  · have he : e ∈ knownErrors := by simp [herrors]
    obtain ⟨before, m, after, k, hfirst⟩ := hexplains.exists_first
    refine iff_of_false ?_ fun hnone => hnone e he hfirst.occurs
    rw [hexplains.title_eq]
    exact htitles e he
  · exact iff_of_true (by rw [heq]; rfl) hnone

theorem no_brace_in_message (text : String) : '{' ∉ (Explanation.ofText text).message.toList := by
  have htexts : ∀ e ∈ knownErrors, ∀ t ∈ e.wording.texts, '{' ∉ t.toList := by decide +kernel
  rcases ofText_cases text with ⟨earlier, e, later, herrors, -, hexplains⟩ | ⟨-, heq⟩
  · have he : e ∈ knownErrors := by simp [herrors]
    obtain ⟨before, m, after, k, hfirst⟩ := hexplains.exists_first
    exact (hexplains.message before m after k hfirst).1.no_brace (htexts e he)
  · have hgeneral : '{' ∉ "An error occurred while connecting to the DB2 server.".toList := by
      decide
    rw [heq]
    exact hgeneral

/-- **A text is explained by the first known error that occurs in it**, and in general words exactly
when none does. No placeholder is left in the message. The details repeat the beginning of the text
behind the explanation. -/
theorem explained_by_first_known (text : String) :
    ((∃ earlier e later, knownErrors = earlier ++ e :: later ∧
        (∀ other ∈ earlier, ¬ other.pattern.Occurs text.toList) ∧
        e.Explains text (Explanation.ofText text)) ∨
      (∀ e ∈ knownErrors, ¬ e.pattern.Occurs text.toList) ∧
        Explanation.ofText text = generalExplanation text) ∧
    ((Explanation.ofText text).title = "Connection error" ↔
      ∀ e ∈ knownErrors, ¬ e.pattern.Occurs text.toList) ∧
    ¬ "{match}".toList <:+: (Explanation.ofText text).message.toList ∧
    (Explanation.ofText text).errorText = text ∧
    (Explanation.ofText text).withDetails =
      (Explanation.ofText text).full ++ "\n\n---\nTechnical details:\n" ++
        String.ofList (text.toList.take 500) := by
  refine ⟨ofText_cases text, title_ofText_general_iff text, fun hpart => ?_,
    errorText_ofText text, ?_⟩
  · have hbrace : '{' ∈ "{match}".toList := by decide
    exact no_brace_in_message text (hpart.subset hbrace)
  · rw [Explanation.withDetails, errorText_ofText, ← String.toList_inj]
    simp [join]

/-- A library that does not exist. -/
theorem explained_by_first_known_library :
    ∃ e before m after k, e ∈ knownErrors ∧ e.title = "Schema not found" ∧
      e.pattern.FirstAt "[SQL0204] SALES in *LIBL type *LIB not found.".toList before m after k ∧
      e.wording.Says k "The schema 'SALES' does not exist." := by
  obtain ⟨⟨earlier, e, later, herrors, -, hexplains⟩ | ⟨hnone, -⟩, hgeneral, -⟩ :=
    explained_by_first_known "[SQL0204] SALES in *LIBL type *LIB not found."
  · have he : e ∈ knownErrors := by simp [herrors]
    obtain ⟨before, m, after, k, hfirst⟩ := hexplains.exists_first
    refine ⟨e, before, m, after, k, he, ?_, hfirst, ?_⟩
    · rw [← hexplains.title_eq]
      decide +kernel
    · have hmessage :
          (Explanation.ofText "[SQL0204] SALES in *LIBL type *LIB not found.").message =
            "The schema 'SALES' does not exist." := by decide +kernel
      rw [← hmessage]
      exact (hexplains.message before m after k hfirst).1
  · exact absurd (hgeneral.2 hnone) (by decide +kernel)

/-- An error code that names nothing. -/
example : (Explanation.ofText "SQL1013N").message = "The database '?' could not be found." := by
  decide +kernel

end Db2Client.Diagnosis
