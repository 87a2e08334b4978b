/-
# ScopeTable.Proofs.Reporting.Streams -- what a stream holds when some of its writes are refused

A report makes several writes, and a stream may refuse any of them. The report is then given up where it is, and the
next one begins. So what becomes of a report is decided by the first refusal among the answers to its own writes
(`lossAmong`), and the answers behind that are those of the reports behind it (`losses`).

From this both outputs are read off, report by report (`reportAll_stream`): the stream holds the line of every report
that is written, and of one that is lost what was taken before the refusal; the log has one warning for every report
that is lost. A stream that refuses whole reports holds the lines of the others and nothing else (`reportAll_planned`).
-/
import ScopeTable.Reporting.Reporter

namespace ScopeTable

open Text Decimal

/-! ## §A Positions in a list -/

section Positions

variable {α β : Type}

/-- The items at certain positions of a list, in their order. -/
def picked (position : Nat → Bool) (items : List α) : List α :=
  (items.zipIdx.filter fun item => position item.2).map Prod.fst

theorem picked_cons (position : Nat → Bool) (item : α) (items : List α) :
    picked position (item :: items) =
      (if position 0 then [item] else []) ++ picked (fun i => position (i + 1)) items := by
  have hrest : ((items.zipIdx 1).filter fun item => position item.2).map Prod.fst =
      picked (fun i => position (i + 1)) items := by
    rw [List.zipIdx_succ, List.filter_map, List.map_map]
    rfl
  rw [picked, List.zipIdx_cons, List.filter_cons]
  split
  · rw [List.map_cons, hrest]
    rfl
  · rw [hrest, List.nil_append]

end Positions

/-! ## §B The writes of a report -/

namespace Reporter

/-- The line of a report. -/
def line (report : UInt64 × String) : String := integerText report.1.toNat ++ ": " ++ report.2

/-- The writes that a report makes: its pieces, without those that have no characters. -/
def writes (report : UInt64 × String) : List String :=
  [integerText report.1.toNat, ": ", report.2, "\n"].filter (· ≠ "")

/-- The warning about a report that is lost, with its line and the error of the stream. -/
def warning (report : UInt64 × String) (error : String) : LogRecord :=
  ⟨.warn, "opal_lang_symbols::report",
    "Failed to write diagnostic for line " ++ integerText report.1.toNat ++ ": " ++ error⟩

theorem join_writes (report : UInt64 × String) : String.join (writes report) = line report ++ "\n" := by
  have hjoin : ∀ pieces : List String, String.join (pieces.filter (· ≠ "")) = String.join pieces := by
    intro pieces
    induction pieces with
    | nil => rfl
    | cons piece pieces ih =>
      by_cases hpiece : piece = ""
      · simpa [hpiece] using ih
      · simpa [hpiece] using ih
  rw [writes, hjoin]
  exact join_diagnosticPieces report.1 report.2

end Reporter

/-! ## §C The first refusal -/

/-- What is refused of several writes: how many are taken before, and what comes of the next one. -/
structure Loss where
  before : Nat
  refusal : Refusal

/-- The first refusal among the answers to so many writes. -/
def lossAmong (count : Nat) (answers : List (Option Refusal)) : Option Loss :=
  ((answers.take count).zipIdx.filterMap fun (answer, i) => answer.map fun refusal => ⟨i, refusal⟩).head?

theorem lossAmong_nil (count : Nat) : lossAmong count [] = none := by simp [lossAmong]

theorem lossAmong_refused (count : Nat) (refusal : Refusal) (answers : List (Option Refusal)) :
    lossAmong (count + 1) (some refusal :: answers) = some ⟨0, refusal⟩ := by
  simp [lossAmong]

theorem lossAmong_taken (count : Nat) (answers : List (Option Refusal)) :
    lossAmong (count + 1) (none :: answers) =
      (lossAmong count answers).map fun loss => { loss with before := loss.before + 1 } := by
  rw [lossAmong, List.take_succ_cons, List.zipIdx_cons, List.filterMap_cons_none rfl, List.zipIdx_succ,
    List.filterMap_map, lossAmong, ← List.head?_map, List.map_filterMap]
  congr 2
  funext ⟨answer, i⟩
  cases answer <;> rfl

/-- What is left in a stream of writes of which one is refused: those before it, and what is taken of it. -/
def Loss.fragment (loss : Loss) (pieces : List String) : String :=
  String.join (pieces.take loss.before) ++ firstOf loss.refusal.taken (pieces.getD loss.before "")

/-- How many answers there are to so many writes: none to those behind the first that is refused. -/
def answered (count : Nat) : Option Loss → Nat
  | none => count
  | some loss => loss.before + 1

namespace Stream

/-- No write is made for a piece without characters. -/
theorem writeAll_filter (stream : Stream) (pieces : List String) :
    writer.writeAll stream pieces = writer.writeAll stream (pieces.filter (· ≠ "")) := by
  induction pieces generalizing stream with
  | nil => rfl
  | cons piece pieces ih =>
    by_cases hpiece : piece = ""
    · have hskipped : writer.write stream piece = (stream, none) := if_pos hpiece
      rw [PieceWriter.writeAll, hskipped, List.filter_cons_of_neg (by simp [hpiece])]
      exact ih stream
    · rw [List.filter_cons_of_pos (by simp [hpiece]), PieceWriter.writeAll, PieceWriter.writeAll]
      rcases writer.write stream piece with ⟨held, _ | error⟩
      · exact ih held
      · rfl

/-- **writeAll_eq**: writes with characters come to what the first refusal among their answers says. -/
theorem writeAll_eq (stream : Stream) {pieces : List String} (h : ∀ piece ∈ pieces, piece ≠ "") :
    writer.writeAll stream pieces =
      let loss := lossAmong pieces.length stream.answers
      (⟨stream.text ++ loss.elim (String.join pieces) (Loss.fragment · pieces),
          stream.answers.drop (answered pieces.length loss)⟩,
        loss.map fun loss => loss.refusal.error) := by
  induction pieces generalizing stream with
  | nil => simp [PieceWriter.writeAll, lossAmong, answered]
  | cons piece pieces ih =>
    have hpiece : piece ≠ "" := h piece List.mem_cons_self
    have hrest : ∀ next ∈ pieces, next ≠ "" := fun next hnext => h next (List.mem_cons_of_mem piece hnext)
    obtain ⟨text, answers⟩ := stream
    rw [PieceWriter.writeAll, List.length_cons]
    -- The answer to the first write decides whether the others are made.
    cases answers with
    | nil =>
      have hwrite : writer.write ⟨text, []⟩ piece = (⟨text ++ piece, []⟩, none) := if_neg hpiece
      rw [hwrite]
      dsimp only
      rw [ih _ hrest, lossAmong_nil, lossAmong_nil]
      simp [String.append_assoc]
    | cons answer answers =>
      cases answer with
      | none =>
        have hwrite : writer.write ⟨text, none :: answers⟩ piece = (⟨text ++ piece, answers⟩, none) := if_neg hpiece
        rw [hwrite, lossAmong_taken]
        dsimp only
        rw [ih _ hrest]
        cases lossAmong pieces.length answers <;> simp [Loss.fragment, answered, String.append_assoc]
      | some refusal =>
        have hwrite : writer.write ⟨text, some refusal :: answers⟩ piece =
            (⟨text ++ firstOf refusal.taken piece, answers⟩, some refusal.error) := if_neg hpiece
        rw [hwrite, lossAmong_refused]
        simp [Loss.fragment, answered]

end Stream

/-! ## §D Reports -/

namespace Reporter

/-- What reports lose when their writes are answered in turn. -/
def losses : List (UInt64 × String) → List (Option Refusal) → List (Option Loss)
  | [], _ => []
  | report :: reports, answers =>
    let loss := lossAmong (writes report).length answers
    loss :: losses reports (answers.drop (answered (writes report).length loss))

/-- What a report leaves in a stream: its line and a line break, or what was taken before it was lost. -/
def left (report : UInt64 × String) : Option Loss → String
  | none => line report ++ "\n"
  | some loss => loss.fragment (writes report)

/-- What one report comes to. -/
theorem report_stream (stream : Stream) (report : UInt64 × String) :
    (streaming Stream.writer).report stream report.1 report.2 =
      let loss := lossAmong (writes report).length stream.answers
      (⟨stream.text ++ left report loss, stream.answers.drop (answered (writes report).length loss)⟩,
        (loss.map fun loss => warning report loss.refusal.error).toList) := by
  have hwrites : Stream.writer.writeAll stream (diagnosticPieces report.1 report.2) =
      Stream.writer.writeAll stream (writes report) := stream.writeAll_filter _
  have hchars : ∀ piece ∈ writes report, piece ≠ "" := fun piece hpiece => by
    simpa using (List.mem_filter.mp hpiece).2
  have hleft : ∀ loss : Option Loss,
      loss.elim (String.join (writes report)) (Loss.fragment · (writes report)) = left report loss := by
    intro loss
    cases loss with
    | none => exact join_writes report
    | some loss => rfl
  rw [streaming]
  dsimp only
  rw [hwrites, stream.writeAll_eq hchars]
  dsimp only
  rw [hleft]
  cases lossAmong (writes report).length stream.answers <;> rfl

/-- **reportAll_stream**: whatever a stream refuses, it holds what each report leaves, and the log has a warning for
each that is lost. -/
theorem reportAll_stream (stream : Stream) (reports : List (UInt64 × String)) :
    let told := (streaming Stream.writer).reportAll stream reports
    told.1.text = stream.text ++ String.join (List.zipWith left reports (losses reports stream.answers)) ∧
      told.2 = (reports.zip (losses reports stream.answers)).filterMap fun (report, loss) =>
        loss.map fun loss => warning report loss.refusal.error := by
  induction reports generalizing stream with
  | nil => simp [reportAll, losses]
  | cons report reports ih =>
    obtain ⟨htext, hlog⟩ := ih ((streaming Stream.writer).report stream report.1 report.2).1
    rw [report_stream] at htext hlog
    dsimp only at htext hlog ⊢
    rw [reportAll, losses]
    dsimp only
    rw [report_stream]
    dsimp only
    rw [htext, hlog]
    constructor
    · simp [String.append_assoc]
    · rw [List.zip_cons_cons, List.filterMap_cons]
      cases lossAmong (writes report).length stream.answers <;> rfl

/-- **losses_length**: every report has its own outcome. -/
theorem losses_length (reports : List (UInt64 × String)) (answers : List (Option Refusal)) :
    (losses reports answers).length = reports.length := by
  induction reports generalizing answers with
  | nil => rfl
  | cons report reports ih => rw [losses, List.length_cons, ih, List.length_cons]

/-! ## §E Streams that refuse whole reports -/

/-- The answers of a stream that refuses some reports, each at its first write and with nothing of it taken. -/
def planned (outage : Nat → Option String) (reports : List (UInt64 × String)) : List (Option Refusal) :=
  reports.zipIdx.flatMap fun (report, i) =>
    match outage i with
    | none => (writes report).map fun _ => none
    | some error => [some ⟨0, error⟩]

theorem planned_cons (outage : Nat → Option String) (report : UInt64 × String) (reports : List (UInt64 × String)) :
    planned outage (report :: reports) =
      (match outage 0 with
        | none => (writes report).map fun _ => none
        | some error => [some ⟨0, error⟩]) ++ planned (fun i => outage (i + 1)) reports := by
  rw [planned, List.zipIdx_cons, List.zipIdx_succ, List.flatMap_cons, List.flatMap_map]
  rfl

/-- Writes that are all taken lose nothing, whatever is answered behind them. -/
theorem lossAmong_all_taken (pieces : List String) (answers : List (Option Refusal)) :
    lossAmong pieces.length ((pieces.map fun _ => none) ++ answers) = none := by
  induction pieces with
  | nil => simp [lossAmong]
  | cons piece pieces ih => rw [List.map_cons, List.cons_append, List.length_cons, lossAmong_taken, ih, Option.map_none]

/-- A stream that is to take the first report takes it. -/
theorem report_taken (text : String) (report : UInt64 × String) (answers : List (Option Refusal)) :
    (streaming Stream.writer).report ⟨text, ((writes report).map fun _ => none) ++ answers⟩ report.1 report.2 =
      (⟨text ++ (line report ++ "\n"), answers⟩, []) := by
  rw [report_stream]
  dsimp only
  rw [lossAmong_all_taken]
  simp [left, answered]

/-- A stream that is to refuse the first report refuses it, and nothing of it is left. -/
theorem report_refused (text error : String) (report : UInt64 × String) (answers : List (Option Refusal)) :
    (streaming Stream.writer).report ⟨text, some ⟨0, error⟩ :: answers⟩ report.1 report.2 =
      (⟨text, answers⟩, [warning report error]) := by
  -- There is a first write to refuse, since a line has characters before the message.
  have hcount : ∃ count, (writes report).length = count + 1 :=
    Nat.exists_eq_add_one.mpr (List.length_pos_of_mem (a := ": ") (by simp [writes]))
  obtain ⟨count, hcount⟩ := hcount
  rw [report_stream]
  dsimp only
  rw [hcount, lossAmong_refused]
  simp [left, answered, Loss.fragment, firstOf]

/-- **reportAll_planned**: a stream that refuses whole reports holds the lines of the others, and the log has a warning
for each of those refused. -/
theorem reportAll_planned (text : String) (outage : Nat → Option String) (reports : List (UInt64 × String)) :
    let told := (streaming Stream.writer).reportAll ⟨text, planned outage reports⟩ reports
    told.1.text = text ++
        String.join ((picked (fun i => (outage i).isNone) (reports.map line)).map fun line => line ++ "\n") ∧
      told.2 = reports.zipIdx.filterMap fun (report, i) => (outage i).map (warning report) := by
  induction reports generalizing text outage with
  | nil => simp [reportAll, picked]
  | cons report reports ih =>
    -- The first report decides; all others are reported to the stream behind it.
    rw [List.map_cons, picked_cons, planned_cons, List.zipIdx_cons, List.zipIdx_succ, List.filterMap_cons,
      List.filterMap_map, Function.comp_def, reportAll]
    cases houtage : outage 0 with
    | none =>
      obtain ⟨htext, hlog⟩ := ih (text ++ (line report ++ "\n")) fun i => outage (i + 1)
      dsimp only at htext hlog ⊢
      rw [report_taken, htext, hlog]
      simp [houtage, String.append_assoc]
    | some error =>
      obtain ⟨htext, hlog⟩ := ih text fun i => outage (i + 1)
      dsimp only [List.cons_append, List.nil_append] at htext hlog ⊢
      rw [report_refused, htext, hlog]
      simp [houtage]

end Reporter

end ScopeTable
