import Db2Client.Proofs.Query.GeneratedKey
import Db2Client.Proofs.Query.KeyCast

/-!
# When the cast of a text fails

Every text is recognized as a numeral or not by one grammar, but the two readers behind it have
limits that the grammar does not know. An integer may not stand beside an information separator,
although separators are blanks, and it may not have more than 4300 digits. A decimal may not have
its digits too far from the point. `TextCast` says what becomes of a text by its own parts, the
failures included, and which of two faults is reported.

An insert is sent before its key is cast, so where the key is such a text the row is there and its
key is lost.

Main result: `castKey_text_outcomes`.
-/

namespace Db2Client.Query

open Number Text

/-! ## The outcomes -/

/-- One of the information separators U+001C to U+001F stands among the characters. -/
def HasSeparator (cs : List Char) : Prop := ∃ c ∈ cs, 28 ≤ c.toNat ∧ c.toNat ≤ 31

/-- The text is a numeral without a point and a power of ten between blanks. -/
structure WholeAmongBlanks (s : String) (left right : List Char) (n : Numeral) : Prop where
  split : ∃ body, s.toList = left ++ (body ++ right) ∧ Spells body n
  left : AllBlank left
  right : AllBlank right
  isWhole : n.isWhole = true

/-- The first digit stands too far before the point for a decimal, or the last too far behind it. -/
def OutOfRange (n : Numeral) : Prop :=
  n.exponent + digitCount n.coefficient - 1 > Decimal.maxLeading ∨ n.exponent < Decimal.minLast

/-- What becomes of a text. -/
inductive TextCast (s : String) : Except IntegerError Value → Prop
  | other : (¬ ∃ n, SpellsAmongBlanks s.toList n) → TextCast s (.ok (.text s))
  | separatorBefore {left right : List Char} {n : Numeral} :
      WholeAmongBlanks s left right n → HasSeparator left → TextCast s (.error (.malformed s))
  | tooManyDigits {left right : List Char} {n : Numeral} :
      WholeAmongBlanks s left right n → ¬ HasSeparator left → digitLimit < n.whole.length →
      TextCast s (.error (.tooManyDigits n.whole.length))
  | separatorBehind {left right : List Char} {n : Numeral} :
      WholeAmongBlanks s left right n → ¬ HasSeparator left → n.whole.length ≤ digitLimit →
      HasSeparator right → TextCast s (.error (.malformed s))
  | whole {left right : List Char} {n : Numeral} :
      WholeAmongBlanks s left right n → ¬ HasSeparator left → n.whole.length ≤ digitLimit →
      ¬ HasSeparator right → TextCast s (.ok (.integer (truncated n.value)))
  | outOfRange {n : Numeral} :
      SpellsAmongBlanks s.toList n → n.isWhole = false → OutOfRange n →
      TextCast s (.error .exponentOutOfRange)
  | fractional {n : Numeral} :
      SpellsAmongBlanks s.toList n → n.isWhole = false → ¬ OutOfRange n →
      TextCast s (.ok (.integer (truncated n.value)))

variable {s : String} {left right : List Char} {n : Numeral} {r : Except IntegerError Value}

theorem exists_textCast (s : String) : ∃ r, TextCast s r := by
  by_cases h : ∃ n, SpellsAmongBlanks s.toList n
  · obtain ⟨n, hn⟩ := h
    cases hwhole : n.isWhole with
    | false =>
      by_cases hrange : OutOfRange n
      · exact ⟨_, .outOfRange hn hwhole hrange⟩
      · exact ⟨_, .fractional hn hwhole hrange⟩
    | true =>
      obtain ⟨left, right, hs⟩ : ∃ left right, WholeAmongBlanks s left right n := by
        generalize hcs : s.toList = cs at hn
        cases hn with
        | blanks hleft hright hbody => exact ⟨_, _, ⟨_, hcs, hbody⟩, hleft, hright, hwhole⟩
      by_cases hbefore : HasSeparator left
      · exact ⟨_, .separatorBefore hs hbefore⟩
      · by_cases hlong : digitLimit < n.whole.length
        · exact ⟨_, .tooManyDigits hs hbefore hlong⟩
        · by_cases hbehind : HasSeparator right
          · exact ⟨_, .separatorBehind hs hbefore (by omega) hbehind⟩
          · exact ⟨_, .whole hs hbefore (by omega) hbehind⟩
  · exact ⟨_, .other h⟩

/-! ## The cast has them -/

/-- Margins are the blanks that are no separators. -/
theorem all_isMargin_iff {cs : List Char} (h : AllBlank cs) :
    cs.all isMargin = true ↔ ¬ HasSeparator cs := by
  rw [List.all_eq_true]
  constructor
  · rintro hmargins ⟨c, hc, hseparator⟩
    have hmargin := hmargins c hc
    simp [isMargin, hseparator] at hmargin
  · intro hnone c hc
    have hother : ¬ (28 ≤ c.toNat ∧ c.toNat ≤ 31) := fun hseparator => hnone ⟨c, hc, hseparator⟩
    have hmargin : c.toNat < 28 ∨ 31 < c.toNat := by omega
    simpa [isMargin, h c hc] using hmargin

theorem castText_of_whole (h : WholeAmongBlanks s left right n) :
    castText s = (if !left.all isMargin then .error (.malformed s)
      else if n.whole.length > digitLimit then .error (.tooManyDigits n.whole.length)
      else if right.all isMargin then .ok (.integer (truncated n.value))
      else .error (.malformed s)) := by
  obtain ⟨⟨body, hs, hbody⟩, hleft, hright, hwhole⟩ := h
  have hspells : SpellsAmongBlanks s.toList n := by
    rw [hs]
    exact .blanks hleft hright hbody
  rw [castText_eq_castNumeral hspells, castNumeral, if_pos hwhole,
    readInteger_of_whole hs hleft hright hbody hwhole, truncated_of_isWhole hwhole]
  split_ifs <;> rfl

theorem ofNumeral?_eq_none_iff : Decimal.ofNumeral? n = none ↔ OutOfRange n := by
  unfold Decimal.ofNumeral? Decimal.make? OutOfRange
  split_ifs with h
  · exact iff_of_true rfl h
  · exact iff_of_false (by simp) h

theorem TextCast.eq_castText (h : TextCast s r) : castText s = r := by
  cases h with
  | other hnone => exact castText_of_not_spells hnone
  | separatorBefore hs hbefore =>
    rw [castText_of_whole hs, if_pos]
    simpa using mt (all_isMargin_iff hs.left).1 (not_not.2 hbefore)
  | tooManyDigits hs hbefore hlong =>
    rw [castText_of_whole hs, (all_isMargin_iff hs.left).2 hbefore, if_neg (by simp),
      if_pos hlong]
  | separatorBehind hs hbefore hshort hbehind =>
    rw [castText_of_whole hs, (all_isMargin_iff hs.left).2 hbefore, if_neg (by simp),
      if_neg (by omega), if_neg (mt (all_isMargin_iff hs.right).1 (not_not.2 hbehind))]
  | whole hs hbefore hshort hbehind =>
    rw [castText_of_whole hs, (all_isMargin_iff hs.left).2 hbefore, if_neg (by simp),
      if_neg (by omega), if_pos ((all_isMargin_iff hs.right).2 hbehind)]
  | outOfRange hn hwhole hrange =>
    have hnone := ofNumeral?_eq_none_iff.2 hrange
    simp only [castText_eq_castNumeral hn, castNumeral, hwhole, hnone, Bool.false_eq_true, if_false]
  | fractional hn hwhole hrange =>
    obtain ⟨d, hd⟩ := Option.ne_none_iff_exists'.1 (mt ofNumeral?_eq_none_iff.1 hrange)
    simp only [castText_eq_castNumeral hn, castNumeral, hwhole, hd, truncate_of_ofNumeral? hd,
      Bool.false_eq_true, if_false]
    rfl

theorem castText_iff : castText s = r ↔ TextCast s r := by
  constructor
  · rintro rfl
    obtain ⟨r, hr⟩ := exists_textCast s
    rwa [hr.eq_castText]
  · exact TextCast.eq_castText

/-! ## The key of an insert -/

/-- Where the key that an insert finds is a text, the insert has been sent, and it ends as the cast
of the text does. -/
theorem insertGetKey_of_text {σ : Type} (db : Database σ) {session after : Session σ}
    {insert : String} {bindings : List Value} {name : Option String} {statement : String}
    (hstatement : keySelect session.variant.keySource insert (.ofName name) = statement)
    {columns : List String} {cells : List Value} {more : List (List Value)}
    (hanswer : (db.answer session.link.memory statement (Link.given bindings)).1 =
      .ok ⟨columns, .ok (cells :: more)⟩)
    (hfinds : Row.Finds columns cells (keyName name) (.text s)) {result : Except Failure Value}
    (hrun : (Session.insertGetKey db insert bindings (.ofName name)).runOn session =
      (result, after)) :
    after.link.sent = session.link.sent ++ [⟨statement, Link.given bindings⟩] ∧
      result = (castText s).mapError .number := by
  rw [Session.insertGetKey_runOn db session insert bindings _ hstatement, Prod.mk.injEq] at hrun
  obtain ⟨hresult, rfl⟩ := hrun
  refine ⟨rfl, ?_⟩
  rw [← hresult, hanswer, ofName_eq]
  exact keyOf_single hfinds statement (more.map (Row.ofCells columns))

theorem mapError_number_eq_error_iff {r : Except IntegerError Value} {e : IntegerError} :
    r.mapError Failure.number = .error (.number e) ↔ r = .error e := by
  cases r <;> simp

/-- **The cast of a text.** It has the outcome that the parts of the text give it and no other, so
it fails for a whole numeral beside a separator, for one of more than 4300 digits, and for a decimal
out of range. An insert whose key is such a text has been sent, and it fails with the same error. -/
theorem castKey_text_outcomes (s : String) :
    (∀ r, castKey (.text s) = r ↔ TextCast s r) ∧
    ∀ {σ : Type} (db : Database σ) (session after : Session σ) (insert : String)
      (bindings : List Value) (name : Option String) (statement : String) (columns : List String)
      (cells : List Value) (more : List (List Value)) (result : Except Failure Value),
      keySelect session.variant.keySource insert (.ofName name) = statement →
      (db.answer session.link.memory statement (Link.given bindings)).1 =
        .ok ⟨columns, .ok (cells :: more)⟩ →
      Row.Finds columns cells (keyName name) (.text s) →
      (Session.insertGetKey db insert bindings (.ofName name)).runOn session = (result, after) →
      after.link.sent = session.link.sent ++ [⟨statement, Link.given bindings⟩] ∧
      ∀ e, result = .error (.number e) ↔ TextCast s (.error e) := by
  refine ⟨fun _ => castText_iff, ?_⟩
  intro σ db session after insert bindings name statement columns cells more result hstatement
    hanswer hfinds hrun
  obtain ⟨hsent, hresult⟩ := insertGetKey_of_text db hstatement hanswer hfinds hrun
  refine ⟨hsent, fun e => ?_⟩
  rw [hresult, mapError_number_eq_error_iff, castText_iff]

/-- A database that answers every insert with one key. -/
def answeringKey (key : String) : Database Unit where
  answer _ _ _ := (.ok ⟨["id"], .ok [[.text key]]⟩, ())

/-- A key out of range. Its insert has been sent. -/
theorem castKey_text_outcomes_outOfRange :
    TextCast "1e1000000000000000000" (.error .exponentOutOfRange) ∧
      ∃ (session after : Session Unit) (statement : String),
        Row.Finds ["id"] [.text "1e1000000000000000000"] (keyName none)
          (.text "1e1000000000000000000") ∧
        (Session.insertGetKey (answeringKey "1e1000000000000000000") "insert into t values (?)"
          [.null] (.ofName none)).runOn session = (.error (.number .exponentOutOfRange), after) ∧
        after.link.sent = session.link.sent ++ [⟨statement, some [.null]⟩] := by
  let session : Session Unit := {
    config := { driver := "db2_ibmi_odbc" }
    variant := ⟨"db2_ibmi_odbc", .odbc, .db2, .newTable, [], true⟩
    defaultSchema := ""
    currentSchema := ""
    link := Link.fresh () }
  have hrange : castKey (.text "1e1000000000000000000") = .error .exponentOutOfRange := rfl
  generalize "1e1000000000000000000" = key at hrange ⊢
  obtain ⟨houtcomes, hinsert⟩ := castKey_text_outcomes key
  have hcast : TextCast key (.error .exponentOutOfRange) := (houtcomes _).1 hrange
  have hlast : Row.LastAt ["id"] [.text key] (keyName none) 0 := by
    refine ⟨⟨rfl, Nat.zero_lt_one⟩, ?_⟩
    rintro i ⟨-, hlength⟩
    exact Nat.le_of_lt_succ hlength
  have hfinds : Row.Finds ["id"] [.text key] (keyName none) (.text key) := .named 0 hlast rfl
  rcases hrun : (Session.insertGetKey (answeringKey key) "insert into t values (?)" [.null]
    (.ofName none)).runOn session with ⟨result, after⟩
  obtain ⟨hsent, hfails⟩ := hinsert (answeringKey key) session after "insert into t values (?)"
    [.null] none _ ["id"] [.text key] [] result rfl rfl hfinds hrun
  exact ⟨hcast, session, after, _, hfinds, by rw [hrun, (hfails _).2 hcast], hsent⟩

/-- A numeral behind a separator. -/
theorem separator_before_key_refused :
    SpellsAmongBlanks "\x1c5".toList ⟨false, [5], none, none⟩ ∧
      castKey (.text "\x1c5") = .error (.malformed "\x1c5") ∧
      ¬ ∃ r, castKey (.text "\x1c5") = .ok r := by
  have hcast : castKey (.text "\x1c5") = .error (.malformed "\x1c5") := rfl
  refine ⟨Numeral.ofText?_trim_eq_some_iff.1 (by decide), hcast, ?_⟩
  rintro ⟨r, hr⟩
  rw [hcast] at hr
  cases hr

end Db2Client.Query
