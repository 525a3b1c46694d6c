import Db2Client.Proofs.Session.Link
import Db2Client.Session.Operation

/-!
# What actions leave alone

An action *keeps* a part of the state when the part is the same after every run, successful or not.
An action made of actions that keep a part keeps it too, so a frame is proved along the text of an
operation and no run has to be followed.

* `Link.select_keeps`, `Link.statement_keeps`: no cursor stays open over a link.
* `toSql_keeps`: nor does compiling a blueprint leave one open, whatever its commands are.
* `Session.runBlueprint_keeps` and its like: an operation that changes no schema keeps all of the
  session's `Standing`.
-/

namespace Db2Client

variable {σ τ α β γ δ : Type}

namespace Action

/-- Every run of the action leaves `part` of the state as it was. -/
def Keeps (part : σ → γ) (a : Action σ α) : Prop := ∀ s, part (a.runOn s).2 = part s

namespace Keeps

variable {part : σ → γ}

theorem pure (x : α) : Keeps part (Pure.pure x : Action σ α) := by
  intro s
  rw [runOn_pure]

theorem ofExcept (r : Except Failure α) : Keeps part (Action.ofExcept r : Action σ α) := by
  intro s
  rw [runOn_ofExcept]

/-- The second action runs only where the first succeeds, but the first keeps the part in any
case. -/
theorem bind {a : Action σ α} {f : α → Action σ β} (ha : a.Keeps part)
    (hf : ∀ x, (f x).Keeps part) : (a >>= f).Keeps part := by
  intro s
  have hfirst : part (a.runOn s).2 = part s := ha s
  rw [runOn_bind]
  rcases hrun : a.runOn s with ⟨e | x, t⟩
  · rwa [hrun] at hfirst
  · rw [hrun] at hfirst
    exact (hf x t).trans hfirst

/-- An action on a part of the state keeps what does not depend on more than the action keeps. -/
theorem onPart {get : σ → τ} {set : σ → τ → σ} {inner : τ → δ} {a : Action τ α}
    (ha : a.Keeps inner) (hset : ∀ s t, inner t = inner (get s) → part (set s t) = part s) :
    (Action.onPart get set a).Keeps part := by
  intro s
  have hinner : inner (a.runOn (get s)).2 = inner (get s) := ha (get s)
  rw [Action.onPart, runOn_of]
  exact hset s _ hinner

end Keeps

end Action

/-! ## Links -/

namespace Link

theorem withCursor_keeps {body : Action (Link σ) α} (h : body.Keeps openCursors) :
    (withCursor body).Keeps openCursors := by
  intro link
  have hbody : (body.runOn { link with openCursors := link.openCursors + 1 }).2.openCursors =
      link.openCursors + 1 := h _
  rw [withCursor, Action.runOn_of]
  show (body.runOn { link with openCursors := link.openCursors + 1 }).2.openCursors - 1 = _
  rw [hbody, Nat.add_sub_cancel]

theorem execute_keeps (db : Database σ) (text : String) (bindings : List Value) :
    (execute db text bindings).Keeps openCursors := by
  intro link
  rw [execute_runOn_given]
  rfl

theorem statement_keeps (db : Database σ) (text : String) (bindings : List Value) :
    (statement db text bindings).Keeps openCursors :=
  withCursor_keeps (.bind (execute_keeps db text bindings) fun _ => .pure ())

theorem select_keeps (db : Database σ) (text : String) (bindings : List Value) :
    (select db text bindings).Keeps openCursors := by
  refine withCursor_keeps (.bind (execute_keeps db text bindings) fun reply => ?_)
  exact .bind (.ofExcept _) fun rows => .pure _

theorem selectOne_keeps (db : Database σ) (text : String) (bindings : List Value) :
    (selectOne db text bindings).Keeps openCursors :=
  .bind (select_keeps db text bindings) fun _ => .pure _

theorem close_keeps : (close : Action (Link σ) Unit).Keeps openCursors := fun _ => rfl

end Link

theorem Query.insertGetKey_keeps (db : Database σ) (source : KeySource) (insert : String)
    (bindings : List Value) (key : KeyColumns) :
    (insertGetKey db source insert bindings key).Keeps Link.openCursors :=
  .bind (Link.select_keeps db _ bindings) fun _ => .ofExcept _

/-! ## Compiling -/

namespace Schema

/-- The cursors that are open over the link, if there is one. -/
def Compilation.openCursors? (s : Compilation σ) : Option Nat := s.link.map Link.openCursors

theorem ask_keeps (db : Database σ) (query : String) :
    (Compilation.ask db query).Keeps Compilation.openCursors? := by
  rintro ⟨_ | link, number⟩
  · rfl
  · have hquery := Link.selectOne_keeps db query [] link
    show some ((Link.selectOne db query []).runOn link).2.openCursors = some link.openCursors
    rw [hquery]

theorem compile_keeps (db : Database σ) (bp : Blueprint) (c : Command) :
    (compile db bp c).Keeps Compilation.openCursors? := by
  unfold compile
  split
  · refine .bind (ask_keeps db replyNumberQuery) fun row => .bind (.ofExcept _) fun n => ?_
    have hset : (Compilation.setNumber n).Keeps (Compilation.openCursors? (σ := σ)) :=
      fun _ => rfl
    exact .bind hset fun _ => .bind (.ofExcept _) fun written => .pure _
  · exact fun _ => rfl

theorem compileAll_keeps (db : Database σ) (bp : Blueprint) (commands : List Command) :
    (compileAll db bp commands).Keeps Compilation.openCursors? := by
  induction commands with
  | nil => exact .pure _
  | cons c rest ih => exact .bind (compile_keeps db bp c) fun _ => .bind ih fun _ => .pure _

theorem toSql_keeps (db : Database σ) (bp : Blueprint) :
    (bp.toSql db).Keeps Compilation.openCursors? := compileAll_keeps db bp bp.toCommands

end Schema

/-! ## Sessions -/

/-- What a session stands on: all but its log and what was sent over its link. -/
structure Standing where
  config : Connection.Config
  variant : Connection.Variant
  defaultSchema : String
  currentSchema : String
  openCursors : Nat

namespace Session

def standing (s : Session σ) : Standing where
  config := s.config
  variant := s.variant
  defaultSchema := s.defaultSchema
  currentSchema := s.currentSchema
  openCursors := s.link.openCursors

theorem onLink_keeps {a : Action (Link σ) α} (h : a.Keeps Link.openCursors) :
    (onLink a).Keeps standing := by
  refine Action.Keeps.onPart h fun s link hlink => ?_
  simp only [standing, hlink]

theorem now_keeps : (now : Action (Session σ) (Session σ)).Keeps standing := fun _ => rfl

theorem statement_keeps (db : Database σ) (text : String) (bindings : List Value) :
    (statement db text bindings).Keeps standing :=
  onLink_keeps (Link.statement_keeps db text bindings)

theorem select_keeps (db : Database σ) (text : String) (bindings : List Value) :
    (select db text bindings).Keeps standing :=
  onLink_keeps (Link.select_keeps db text bindings)

theorem selectOne_keeps (db : Database σ) (text : String) (bindings : List Value) :
    (selectOne db text bindings).Keeps standing :=
  onLink_keeps (Link.selectOne_keeps db text bindings)

theorem insertGetKey_keeps (db : Database σ) (insert : String) (bindings : List Value)
    (key : Query.KeyColumns) : (insertGetKey db insert bindings key).Keeps standing :=
  .bind now_keeps fun _ => onLink_keeps (Query.insertGetKey_keeps db _ insert bindings key)

theorem hasTable_keeps (db : Database σ) (table : String) : (hasTable db table).Keeps standing :=
  .bind now_keeps fun _ => .bind (select_keeps db _ _) fun _ => .pure _

theorem columnNames_keeps (db : Database σ) (table : String) :
    (columnNames db table).Keeps standing :=
  .bind now_keeps fun _ => .bind (select_keeps db _ _) fun _ => .ofExcept _

theorem compile_keeps (db : Database σ) (bp : Schema.Blueprint) :
    (compile db bp).Keeps standing := by
  intro s
  have hcursors := Schema.toSql_keeps db bp { link := some s.link }
  rw [compile, Action.runOn_of]
  rcases hrun : (bp.toSql db).runOn { link := some s.link } with ⟨r, _ | link, number⟩
  · rw [hrun] at hcursors
    cases hcursors
  · rw [hrun] at hcursors
    have hlink : link.openCursors = s.link.openCursors := Option.some.inj hcursors
    simp only [standing, Option.getD_some, hlink]

theorem runAll_keeps (db : Database σ) (statements : List String) :
    (runAll db statements).Keeps standing := by
  induction statements with
  | nil => exact .pure ()
  | cons text rest ih => exact .bind (statement_keeps db text []) fun _ => ih

theorem runBlueprint_keeps (db : Database σ) (bp : Schema.Blueprint) :
    (runBlueprint db bp).Keeps standing :=
  .bind (compile_keeps db bp) fun _ => .bind (runAll_keeps db _) fun _ => .pure _

end Session

end Db2Client
