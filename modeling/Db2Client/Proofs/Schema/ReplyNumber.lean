import Db2Client.Proofs.Session.Link
import Db2Client.Schema.Compile

/-!
# The reply list number

Adding an entry to the reply list asks the server for a free number. What comes of the answer is
said twice, and both ways cover every answer:

* `offered?` is the number in the first row. Adding an entry keeps it (`numberAnswered_ok_iff`).
* `NumberFault` lists what is wrong with every other answer, with the failure that reports it
  (`numberAnswered_error_iff`).
-/

namespace Db2Client.Schema

open Number Text

variable {σ : Type}

/-! ## The server's answer -/

/-- The number that the server's answer offers: the first row's sequence number, as an integer. -/
def offered? (answer : Except String Reply) : Option Int := do
  let reply ← answer.toOption
  let rows ← reply.rows.toOption
  let cells ← rows.head?
  let v ← (Row.ofCells reply.columns cells).cell? "sequence_number"
  v.toInteger.toOption

/-- Every number is taken. -/
def noFreeNumber (table : String) : Failure :=
  .schema { problem := .noFreeReplyNumber, table := .text table,
            command := .text CommandKind.addReplyListEntry.tag }

/-- What is wrong with an answer that offers no number, and how it is reported. -/
inductive NumberFault (table : String) : Except String Reply → Failure → Prop
  /-- The query is refused. -/
  | refused (text : String) : NumberFault table (.error text) (.database text)
  /-- The rows cannot be fetched. -/
  | unfetched {reply : Reply} {text : String} :
      reply.rows = .error text → NumberFault table (.ok reply) (.database text)
  | noRow {reply : Reply} :
      reply.rows = .ok [] → NumberFault table (.ok reply) (noFreeNumber table)
  | emptyRow {reply : Reply} {cells : List Value} {rest : List (List Value)} :
      reply.rows = .ok (cells :: rest) → (Row.ofCells reply.columns cells).entries = [] →
      NumberFault table (.ok reply) (noFreeNumber table)
  | null {reply : Reply} {cells : List Value} {rest : List (List Value)} :
      reply.rows = .ok (cells :: rest) →
      (Row.ofCells reply.columns cells).cell? "sequence_number" = some .null →
      NumberFault table (.ok reply) (noFreeNumber table)
  /-- The row has other columns, but not this one in either case. -/
  | absent {reply : Reply} {cells : List Value} {rest : List (List Value)} :
      reply.rows = .ok (cells :: rest) → (Row.ofCells reply.columns cells).entries ≠ [] →
      (Row.ofCells reply.columns cells).get? "sequence_number" = none →
      (Row.ofCells reply.columns cells).get? "SEQUENCE_NUMBER" = none →
      NumberFault table (.ok reply) (.absentColumn "sequence_number")
  | unreadable {reply : Reply} {cells : List Value} {rest : List (List Value)} {v : Value}
      {e : IntegerError} :
      reply.rows = .ok (cells :: rest) →
      (Row.ofCells reply.columns cells).cell? "sequence_number" = some v → v.isNull = false →
      v.toInteger = .error e → NumberFault table (.ok reply) (.number e)

theorem cell?_sequenceNumber_eq_none_iff (row : Row) :
    row.cell? "sequence_number" = none ↔
      row.get? "sequence_number" = none ∧ row.get? "SEQUENCE_NUMBER" = none := by
  have hupper : upper "sequence_number" = "SEQUENCE_NUMBER" := rfl
  unfold Row.cell?
  rw [hupper]
  cases row.get? "sequence_number" <;> simp

theorem entries_ne_nil_of_cell? {row : Row} {column : String} {v : Value}
    (h : row.cell? column = some v) : row.entries ≠ [] := by
  intro hempty
  simp [Row.cell?, OrderedMap.get?, hempty, OrderedMap.find] at h

/-! ## What is made of the answer -/

/-- What adding an entry makes of the server's answer. -/
def numberAnswered (bp : Blueprint) (answer : Except String Reply) : Except Failure Int :=
  ((answer.mapError .database).bind Reply.firstRow).bind
    (freeNumber bp { kind := .addReplyListEntry })

theorem numberAnswered_refused (bp : Blueprint) (text : String) :
    numberAnswered bp (.error text) = .error (.database text) := rfl

theorem numberAnswered_unfetched (bp : Blueprint) {reply : Reply} {text : String}
    (h : reply.rows = .error text) : numberAnswered bp (.ok reply) = .error (.database text) := by
  simp [numberAnswered, Reply.firstRow, h, Except.bind, Except.map]

theorem numberAnswered_noRow (bp : Blueprint) {reply : Reply} (h : reply.rows = .ok []) :
    numberAnswered bp (.ok reply) = .error (noFreeNumber bp.table) := by
  simp [numberAnswered, Reply.firstRow, h, Except.bind, Except.map, freeNumber,
    noFreeNumber]

theorem numberAnswered_row (bp : Blueprint) {reply : Reply} {cells : List Value}
    {rest : List (List Value)} (h : reply.rows = .ok (cells :: rest)) :
    numberAnswered bp (.ok reply) =
      freeNumber bp { kind := .addReplyListEntry } (some (Row.ofCells reply.columns cells)) := by
  simp [numberAnswered, Reply.firstRow, h, Except.bind, Except.map]

theorem freeNumber_row (bp : Blueprint) (row : Row) :
    freeNumber bp { kind := .addReplyListEntry } (some row) =
      if row.entries = [] then .error (noFreeNumber bp.table)
      else match row.cell? "sequence_number" with
        | none => .error (.absentColumn "sequence_number")
        | some .null => .error (noFreeNumber bp.table)
        | some v => v.toInteger.mapError .number := by
  unfold freeNumber Row.cell
  by_cases hempty : row.entries = []
  · simp [hempty, noFreeNumber]
  · cases hcell : row.cell? "sequence_number" with
    | none => simp [hempty, hcell]
    | some v => cases v <;> simp [hempty, hcell, noFreeNumber]

theorem freeNumber_cell (bp : Blueprint) {row : Row} {v : Value}
    (h : row.cell? "sequence_number" = some v) (hv : v.isNull = false) :
    freeNumber bp { kind := .addReplyListEntry } (some row) = v.toInteger.mapError .number := by
  rw [freeNumber_row, if_neg (entries_ne_nil_of_cell? h), h]
  cases v <;> first | rfl | exact absurd hv (by decide)

theorem offered?_row {reply : Reply} {cells : List Value} {rest : List (List Value)}
    (h : reply.rows = .ok (cells :: rest)) :
    offered? (.ok reply) =
      ((Row.ofCells reply.columns cells).cell? "sequence_number").bind fun v =>
        v.toInteger.toOption := by
  simp [offered?, h, Except.toOption]

theorem isNull_eq_false_of_toInteger {v : Value} {n : Int} (h : v.toInteger = .ok n) :
    v.isNull = false := by
  cases v <;> first | rfl | cases h

/-- **A faulty answer is reported.** -/
theorem numberAnswered_of_fault {bp : Blueprint} {answer : Except String Reply} {e : Failure}
    (h : NumberFault bp.table answer e) : numberAnswered bp answer = .error e := by
  cases h with
  | refused text => exact numberAnswered_refused bp text
  | unfetched h => exact numberAnswered_unfetched bp h
  | noRow h => exact numberAnswered_noRow bp h
  | emptyRow h hempty => rw [numberAnswered_row bp h, freeNumber_row, if_pos hempty]
  | null h hcell =>
    rw [numberAnswered_row bp h, freeNumber_row, if_neg (entries_ne_nil_of_cell? hcell), hcell]
  | absent h hrow hlower hupper =>
    rw [numberAnswered_row bp h, freeNumber_row, if_neg hrow,
      (cell?_sequenceNumber_eq_none_iff _).2 ⟨hlower, hupper⟩]
  | unreadable h hcell hv he =>
    rw [numberAnswered_row bp h, freeNumber_cell bp hcell hv, he]
    rfl

theorem numberAnswered_of_offered {bp : Blueprint} {answer : Except String Reply} {n : Int}
    (h : offered? answer = some n) : numberAnswered bp answer = .ok n := by
  rcases answer with text | ⟨columns, text | _ | ⟨cells, rest⟩⟩
  · cases h
  · cases h
  · cases h
  · rw [offered?_row rfl, Option.bind_eq_some_iff] at h
    obtain ⟨v, hcell, hv⟩ := h
    have hn : v.toInteger = .ok n := by
      cases hint : v.toInteger with
      | error e => simp [hint, Except.toOption] at hv
      | ok m => simpa [hint, Except.toOption] using hv
    rw [numberAnswered_row bp rfl, freeNumber_cell bp hcell (isNull_eq_false_of_toInteger hn), hn]
    rfl

/-- Every answer offers a number or has a fault. -/
theorem offered_or_fault (table : String) (answer : Except String Reply) :
    (∃ n, offered? answer = some n) ∨ ∃ e, NumberFault table answer e := by
  rcases answer with text | ⟨columns, text | _ | ⟨cells, rest⟩⟩
  · exact .inr ⟨_, .refused text⟩
  · exact .inr ⟨_, .unfetched rfl⟩
  · exact .inr ⟨_, .noRow rfl⟩
  · by_cases hempty : (Row.ofCells columns cells).entries = []
    · exact .inr ⟨_, .emptyRow rfl hempty⟩
    · cases hcell : (Row.ofCells columns cells).cell? "sequence_number" with
      | none =>
        obtain ⟨hlower, hupper⟩ := (cell?_sequenceNumber_eq_none_iff _).1 hcell
        exact .inr ⟨_, .absent rfl hempty hlower hupper⟩
      | some v =>
        cases hnull : v.isNull with
        | true =>
          obtain rfl : v = .null := by cases v <;> first | rfl | cases hnull
          exact .inr ⟨_, .null rfl hcell⟩
        | false =>
          cases hint : v.toInteger with
          | error e => exact .inr ⟨_, .unreadable rfl hcell hnull hint⟩
          | ok n =>
            refine .inl ⟨n, ?_⟩
            rw [offered?_row rfl, hcell]
            simp [hint, Except.toOption]

theorem numberAnswered_ok_iff {bp : Blueprint} {answer : Except String Reply} {n : Int} :
    numberAnswered bp answer = .ok n ↔ offered? answer = some n := by
  refine ⟨fun h => ?_, numberAnswered_of_offered⟩
  rcases offered_or_fault bp.table answer with ⟨m, hm⟩ | ⟨e, he⟩
  · rw [numberAnswered_of_offered hm] at h
    cases h
    exact hm
  · rw [numberAnswered_of_fault he] at h
    cases h

theorem numberAnswered_error_iff {bp : Blueprint} {answer : Except String Reply} {e : Failure} :
    numberAnswered bp answer = .error e ↔ NumberFault bp.table answer e := by
  refine ⟨fun h => ?_, numberAnswered_of_fault⟩
  rcases offered_or_fault bp.table answer with ⟨n, hn⟩ | ⟨e', he'⟩
  · rw [numberAnswered_of_offered hn] at h
    cases h
  · rw [numberAnswered_of_fault he'] at h
    cases h
    exact he'

/-! ## A server with one answer -/

/-- A database that answers every statement with one row of one cell. -/
def answering (v : Value) : Database Unit where
  answer _ _ _ := (.ok { columns := ["SEQUENCE_NUMBER"], rows := .ok [[v]] }, ())

theorem offered?_answering (v : Value) (text : String) :
    offered? ((answering v).answer () text none).1 = v.toInteger.toOption := rfl

/-- One followed by as many zeros as make one digit too many. -/
def longNumber : Value := .decimal (.finite false 1 digitLimit)

theorem truncate_powerOfTen (d : Nat) :
    (Decimal.finite false 1 d).truncate = .ok ((Nat.pow 10 d : Nat) : Int) := by
  have hd : ¬ (d : Int) < 0 := by omega
  simp [Decimal.truncate, applySign, hd]

theorem toInteger_longNumber :
    longNumber.toInteger = .ok ((Nat.pow 10 digitLimit : Nat) : Int) :=
  truncate_powerOfTen digitLimit

theorem not_isWritable_longNumber : ¬ IsWritable ((Nat.pow 10 digitLimit : Nat) : Int) := by
  rw [IsWritable, Int.natAbs_natCast]
  exact Nat.lt_irrefl _

end Db2Client.Schema
