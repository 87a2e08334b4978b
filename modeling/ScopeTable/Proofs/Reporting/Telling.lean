/-
# ScopeTable.Proofs.Reporting.Telling -- a walk that is listened to is the walk, told event by event

`Program.analyse` walks over a program with nobody listening, and keeps its events. `Program.buildTelling` walks with a
listener inside, who is told every step when it is made. Here the two are compared: whoever listens, the second ends
with the outcome of the first, and the listener has been told just its events, in their order (`buildTelling_eq`).

Both walks fill every scope by one loop, `NameMap.register` here and `NameMap.offerEach` there. So the comparison is
made once for the loop (`offerEach_eq`), under the assumption that what is inside an item compares; it is then used from
the inside out, for variables, fields, methods and classes.
-/
import ScopeTable.Proofs.Analysis.History
import ScopeTable.Reporting.Build

namespace ScopeTable

variable {σ : Type}

/-! ## §A Telling events -/

/-- Tells an event: its record, and behind it its diagnostics. -/
def Listener.hear (listener : Listener σ) (state : σ) (event : Event) : σ :=
  event.diagnostics.foldl (fun state report => listener.reported state report.1 report.2)
    (listener.logged state event.record)

namespace Progress

variable (listener : Listener σ)

/-- To take note of an event is to tell it, and to keep it if it is a conflict. -/
theorem note_eq (progress : Progress σ) (event : Event) :
    progress.note listener event =
      ⟨listener.hear progress.state event, progress.conflicts ++ event.conflict?.toList,
        progress.failed || event.conflict?.any Conflict.fails⟩ := by
  cases event <;> simp [note, log, emit, Listener.hear, Event.diagnostics, Event.conflict?]

/-- **foldl_note**: what a walk carries after some events depends on these events alone. -/
theorem foldl_note (progress : Progress σ) (events : List Event) :
    events.foldl (note listener) progress =
      ⟨events.foldl listener.hear progress.state, progress.conflicts ++ events.filterMap Event.conflict?,
        progress.failed || (events.filterMap Event.conflict?).any Conflict.fails⟩ := by
  induction events generalizing progress with
  | nil => simp
  | cons event events ih =>
    rw [List.foldl_cons, ih, note_eq, List.foldl_cons]
    cases hconflict : event.conflict? with
    | none => simp [hconflict]
    | some found => simp [hconflict, Bool.or_assoc]

end Progress

/-! ## §B The loop of a scope -/

namespace NameMap

variable {α V κ E : Type} {spelling : α → String} {first : α → V} {fill : α → V → κ → V × κ} {clash : V → α → κ → κ}
  {enter : α → V × List E} {events : V → α → List E} {tell : κ → E → κ}

/-- **offerEach_eq**: to offer items one by one, with an account of each on the way, is to register them and to give the
account afterwards. -/
theorem offerEach_eq (hfill : ∀ item progress, fill item (first item) progress =
      ((enter item).1, (enter item).2.foldl tell progress))
    (hclash : ∀ holder item progress, clash holder item progress = (events holder item).foldl tell progress)
    (items : List α) (map : NameMap V) (progress : κ) :
    offerEach spelling first fill clash items map progress =
      ((map.register spelling enter events items).1,
        (map.register spelling enter events items).2.foldl tell progress) := by
  induction items generalizing map progress with
  | nil => rfl
  | cons item items ih =>
    rw [offerEach, register, insertIfNew]
    cases hfound : map.get? (spelling item) with
    | some holder =>
      dsimp only
      rw [ih, hclash, List.foldl_append]
    | none =>
      have hfree : map.find? (spelling item) = none := by rwa [get?, Option.map_eq_none_iff] at hfound
      dsimp only
      rw [ih, modify_insert hfree, hfill, List.foldl_append]

end NameMap

/-! ## §C The walk -/

section Walk

variable (listener : Listener σ)

theorem declareVariables_eq (offered : List Variable) (scope : NameMap Variable) (progress : Progress σ) :
    declareVariables listener offered scope progress =
      let walked := scope.register (fun v : Variable => v.name.spelling) (fun v => (v, [Event.variableDeclared v]))
        (fun first v => [.conflict (.ofRejected .ofVariable v.name.spelling first.line v.name)]) offered
      (walked.1, walked.2.foldl (Progress.note listener) progress) := by
  apply NameMap.offerEach_eq
  · exact fun _ _ => rfl
  · exact fun _ _ _ => rfl

theorem declareFields_eq (cls : ClassDecl) (progress : Progress σ) :
    declareFields listener cls.fieldNames .empty progress =
      (cls.walkFields.1, cls.walkFields.2.foldl (Progress.note listener) progress) := by
  apply NameMap.offerEach_eq
  · exact fun _ _ => rfl
  · exact fun _ _ _ => rfl

theorem FunctionDecl.fill_eq (method : FunctionDecl) (progress : Progress σ) :
    method.fill listener ⟨method, .empty⟩ progress =
      (method.walk.1, method.walk.2.foldl (Progress.note listener) progress) := by
  rw [fill, declareVariables_eq]
  rfl

theorem declareMethods_eq (cls : ClassDecl) (progress : Progress σ) :
    declareMethods listener cls.block.methods .empty progress =
      (cls.walkMethods.1, cls.walkMethods.2.foldl (Progress.note listener) progress) := by
  apply NameMap.offerEach_eq
  · exact FunctionDecl.fill_eq listener
  · exact fun _ _ _ => rfl

theorem ClassDecl.fill_eq (cls : ClassDecl) (progress : Progress σ) :
    cls.fill listener ⟨cls, .empty, .empty⟩ progress =
      (cls.walk.1, cls.walk.2.foldl (Progress.note listener) progress) := by
  rw [fill, declareFields_eq, declareMethods_eq, walk, List.cons_append, List.foldl_cons, List.foldl_append]

theorem declareClasses_eq (classes : List ClassDecl) (progress : Progress σ) :
    declareClasses listener classes .empty progress =
      ((walkClasses classes).1, (walkClasses classes).2.foldl (Progress.note listener) progress) := by
  apply NameMap.offerEach_eq
  · exact ClassDecl.fill_eq listener
  · exact fun _ _ _ => rfl

/-- **buildTelling_eq**: whoever listens, a program is built as it is without a listener, and what is told are the
events of its analysis. -/
theorem Program.buildTelling_eq (state : σ) (program : Program) :
    program.buildTelling listener state = (program.build, program.analyse.events.foldl listener.hear state) := by
  have hevents := Progress.foldl_note listener (.start state) program.analyse.events
  rw [buildTelling, declareClasses_eq]
  show (Progress.finish (program.analyse.events.foldl (Progress.note listener) (.start state)) program.analyse.table,
    (program.analyse.events.foldl (Progress.note listener) (.start state)).state) = _
  rw [hevents]
  rfl

end Walk

end ScopeTable
