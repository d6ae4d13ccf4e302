import OnePass.Proofs.Queue
import OnePass.Queue.Text

namespace OnePass

/-!
# The text of a queue can be read back

Writing one stage after another joins their names by arrows.  No name of a kind holds
a blank, so the arrows in the text are those that were put between the names.  Cutting
the text at its arrows therefore gives the names back, and each name leads back to its
kind.
-/

/-- No name holds a blank, although one name may begin with another. -/
theorem StageKind.blank_not_mem_name (kind : StageKind) :
    ' ' ∉ kind.name.toList := by
  cases kind <;> simp [name]

/-- No name is empty. -/
theorem StageKind.name_ne_empty (kind : StageKind) : kind.name ≠ "" := by
  cases kind <;> simp [name]

/-- A kind is found under no other name than its own. -/
theorem StageKind.name_of_ofName?
    {name : String}
    {kind : StageKind}
    (found : ofName? name = Option.some kind) :
    kind.name = name := by
  simpa using List.find?_some found

namespace Queue

/-! ## Writing -/

/-- Stages that are not the first are joined to what is written by arrows. -/
theorem foldl_writeStage
    (written : String)
    (index : Nat)
    (stages : List Descriptor) :
    (stages.zipIdx (index + 1)).foldl writeStage written =
      " -> ".intercalate
        (written :: stages.map fun stage => stage.kind.name) := by
  induction stages generalizing written index with
  | nil =>
      simp
  | cons stage rest inductionHypothesis =>
      have step :
          writeStage written (stage, index + 1) =
            written ++ " -> " ++ stage.kind.name := by
        simp [writeStage]
      rw [List.zipIdx_cons, List.foldl_cons, step, inductionHypothesis,
        String.intercalate_cons_append, List.map_cons,
        String.intercalate_cons_cons]

/-- Writing one stage after another joins their names by arrows. -/
theorem text_eq_intercalate (queue : Queue) :
    queue.text = " -> ".intercalate (queue.kinds.map StageKind.name) := by
  rw [kinds, List.map_map]
  cases declared : queue.stages with
  | nil =>
      simp [text, declared]
  | cons stage rest =>
      have first : writeStage "" (stage, 0) = stage.kind.name := by
        simp [writeStage]
      rw [text, declared, List.zipIdx_cons, List.foldl_cons, first,
        foldl_writeStage]
      rfl

/-! ## Cutting at arrows -/

/-- A text has at least one piece. -/
theorem splitArrows_ne_nil (text : List Char) : splitArrows text ≠ [] := by
  fun_cases splitArrows text <;> simp

/-- A character other than a blank goes to the first piece. -/
theorem splitArrows_cons
    {character : Char}
    {text piece : List Char}
    {pieces : List (List Char)}
    (notBlank : ' ' ≠ character)
    (cut : splitArrows text = piece :: pieces) :
    splitArrows (character :: text) = (character :: piece) :: pieces := by
  rw [splitArrows, cut]
  intro rest isBlank
  exact absurd isBlank.symm notBlank

/-- A text without blanks is one piece. -/
theorem splitArrows_of_blankless
    {text : List Char}
    (blankless : ' ' ∉ text) :
    splitArrows text = [text] := by
  induction text with
  | nil =>
      rfl
  | cons character rest inductionHypothesis =>
      obtain ⟨notBlank, restBlankless⟩ :=
        List.ne_and_not_mem_of_not_mem_cons blankless
      exact splitArrows_cons notBlank (inductionHypothesis restBlankless)

/-- What stands before the first arrow is the first piece, if it holds no blank. -/
theorem splitArrows_append
    {text : List Char}
    (blankless : ' ' ∉ text)
    (rest : List Char) :
    splitArrows (text ++ " -> ".toList ++ rest) = text :: splitArrows rest := by
  induction text with
  | nil =>
      rfl
  | cons character later inductionHypothesis =>
      obtain ⟨notBlank, laterBlankless⟩ :=
        List.ne_and_not_mem_of_not_mem_cons blankless
      exact splitArrows_cons notBlank (inductionHypothesis laterBlankless)

/-- Cutting undoes joining by arrows, if no part holds a blank. -/
theorem splitArrows_intercalate
    {parts : List (List Char)}
    (nonempty : parts ≠ [])
    (blankless : ∀ part ∈ parts, ' ' ∉ part) :
    splitArrows (" -> ".toList.intercalate parts) = parts := by
  induction parts with
  | nil =>
      contradiction
  | cons part rest inductionHypothesis =>
      obtain ⟨partBlankless, restBlankless⟩ := List.forall_mem_cons.mp blankless
      cases rest with
      | nil =>
          rw [List.intercalate_singleton]
          exact splitArrows_of_blankless partBlankless
      | cons next later =>
          rw [List.intercalate_cons_cons, splitArrows_append partBlankless,
            inductionHypothesis (List.cons_ne_nil _ _) restBlankless]

/-- Joining by arrows undoes cutting, whatever the text. -/
theorem intercalate_splitArrows (text : List Char) :
    " -> ".toList.intercalate (splitArrows text) = text := by
  fun_induction splitArrows text with
  | case1 =>
      rfl
  | case2 rest inductionHypothesis =>
      -- The arrow comes back only because the rest has a piece to stand after it.
      obtain ⟨piece, pieces, cut⟩ :=
        List.exists_cons_of_ne_nil (splitArrows_ne_nil rest)
      rw [cut] at inductionHypothesis ⊢
      rw [List.intercalate_cons_cons, inductionHypothesis]
      rfl
  | case3 character rest noArrow cut =>
      exact absurd cut (splitArrows_ne_nil rest)
  | case4 character rest noArrow piece pieces cut inductionHypothesis =>
      rw [cut] at inductionHypothesis
      cases pieces <;> simpa using inductionHypothesis

/-! ## Reading kinds -/

/-- The text of a queue, cut at its arrows, is the names of its stages. -/
theorem splitArrows_text
    {queue : Queue}
    (declared : queue.kinds ≠ []) :
    splitArrows queue.text.toList =
      queue.kinds.map fun kind => kind.name.toList := by
  have blankless :
      ∀ part ∈ queue.kinds.map fun kind => kind.name.toList, ' ' ∉ part := by
    simpa using fun kind _ => kind.blank_not_mem_name
  have cut := splitArrows_intercalate (by simpa using declared) blankless
  simpa [text_eq_intercalate, Function.comp_def] using cut

/-- Names that are looked up one after another lead back to their kinds. -/
theorem mapM_ofName?_names (kinds : List StageKind) :
    (kinds.map fun kind => kind.name.toList).mapM
        (fun piece => StageKind.ofName? (String.ofList piece)) =
      some kinds := by
  induction kinds with
  | nil =>
      rfl
  | cons kind rest inductionHypothesis =>
      simp [inductionHypothesis, StageKind.ofName?_name]

/-- Pieces that are looked up without fail are the names of the kinds found. -/
theorem pieces_of_mapM_ofName?
    {pieces : List (List Char)}
    {kinds : List StageKind}
    (found :
      pieces.mapM (fun piece => StageKind.ofName? (String.ofList piece)) =
        some kinds) :
    pieces = kinds.map fun kind => kind.name.toList := by
  induction pieces generalizing kinds with
  | nil =>
      cases found
      rfl
  | cons piece rest inductionHypothesis =>
      simp only [List.mapM_cons, Option.bind_eq_bind, Option.bind_eq_some_iff,
        Option.pure_def, Option.some.injEq] at found
      obtain ⟨kind, named, later, restFound, rfl⟩ := found
      rw [List.map_cons, ← inductionHypothesis restFound,
        StageKind.name_of_ofName? named, String.toList_ofList]

/-- The text of a queue is empty exactly if no stage was declared. -/
theorem text_eq_empty (queue : Queue) :
    queue.text = "" ↔ queue.kinds = [] := by
  cases declared : queue.kinds with
  | nil =>
      simp [text_eq_intercalate, declared]
  | cons kind rest =>
      cases rest <;>
        simp [text_eq_intercalate, declared, kind.name_ne_empty]

/-- Reading the text of a queue gives its kinds. -/
theorem readKinds?_text (queue : Queue) :
    readKinds? queue.text = some queue.kinds := by
  by_cases undeclared : queue.kinds = []
  · rw [(text_eq_empty queue).mpr undeclared, undeclared]
    rfl
  · have notEmpty : queue.text.isEmpty = false := by
      simpa [text_eq_empty] using undeclared
    rw [readKinds?, if_neg (by simp [notEmpty]), splitArrows_text undeclared]
    exact mapM_ofName?_names _

/-- A text that can be read is the one that its kinds are written as. -/
theorem text_of_readKinds?
    {text : String}
    {kinds : List StageKind}
    (read : readKinds? text = some kinds) :
    text = " -> ".intercalate (kinds.map StageKind.name) := by
  by_cases blank : text.isEmpty = true
  · rw [readKinds?, if_pos blank] at read
    cases read
    simpa using blank
  · rw [readKinds?, if_neg blank] at read
    have joined := intercalate_splitArrows text.toList
    rw [pieces_of_mapM_ofName? read] at joined
    apply String.toList_inj.mp
    simpa [Function.comp_def] using joined.symm

/--
The text determines the kinds.  Whatever stages are pushed, terminal kinds anywhere
and with any separators and flags, two queues have the same text exactly if the kinds
pushed were the same.  The text of a queue reads back as its kinds, and what can be
read is the text of some queue.
-/
theorem text_determines_kinds (first second : List Descriptor) :
    ((ofList first).text = (ofList second).text ↔
        first.map Descriptor.kind = second.map Descriptor.kind) ∧
      readKinds? (ofList first).text = some (first.map Descriptor.kind) ∧
      ∀ text kinds,
        readKinds? text = some kinds ↔
          ∃ stages,
            (ofList stages).text = text ∧
              stages.map Descriptor.kind = kinds := by
  have read (stages : List Descriptor) :
      readKinds? (ofList stages).text = some (stages.map Descriptor.kind) := by
    rw [readKinds?_text, kinds, stages_ofList]
  refine ⟨⟨?_, ?_⟩, read first, ?_⟩
  · intro sameText
    have sameReading := congrArg readKinds? sameText
    rw [read, read] at sameReading
    exact Option.some.inj sameReading
  · intro sameKinds
    simp [text_eq_intercalate, kinds, sameKinds]
  · intro text kinds
    constructor
    · intro isRead
      -- Flags and separators leave no trace in the text, so plain records will do.
      refine ⟨kinds.map Descriptor.plain, ?_, ?_⟩
      · rw [text_of_readKinds? isRead]
        simp [text_eq_intercalate, Queue.kinds, Descriptor.plain,
          Function.comp_def]
      · simp [Descriptor.plain, Function.comp_def]
    · rintro ⟨stages, rfl, rfl⟩
      exact read stages

/-- One name begins with the other, and only the arrow ends it. -/
example :
    readKinds? "find -> findIndex" = some [.find, .findIndex] ∧
      readKinds? "findfindIndex" = none := by
  decide

end Queue

end OnePass
