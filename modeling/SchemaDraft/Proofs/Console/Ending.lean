import SchemaDraft.Console.Command
import SchemaDraft.Proofs.Console.Rendered
import SchemaDraft.Proofs.Model.IdSupply

/-!
How a command ends. What a command prints with its tags read is laid down by the command, its files
and the ids alone: its `Course` is the list of these texts, up to the place where it fails or comes
to its end. The command follows its course as long as the texts can be printed (`follows_perform`),
and so it ends well or with an error message, unless one of them has a closing tag that closes
nothing or an action that is not well formed: then it breaks off (`ending_run`).
-/

namespace SchemaDraft.Console

open Text

variable {α β : Type}

/-! ### Courses -/

/-- The texts that a part of a command prints, in order, and what it gives with the ids left after
it; nothing if it fails. -/
structure Shown (α : Type) where
  texts : List (List Char)
  value : Option (α × IdSupply)

/-- What a part of a command prints and gives, by the ids before it. -/
def Course (α : Type) := IdSupply → Shown α

namespace Course

instance : Monad Course where
  pure a := fun ids => ⟨[], some (a, ids)⟩
  bind c f := fun ids =>
    match (c ids).value with
    | none => ⟨(c ids).texts, none⟩
    | some (a, rest) => ⟨(c ids).texts ++ (f a rest).texts, (f a rest).value⟩

/-- Some texts are printed on the way to a value. -/
def prints (texts : List (List Char)) (a : α) : Course α := fun ids => ⟨texts, some (a, ids)⟩

/-- A text is printed. -/
def shows (text : List Char) : Course Unit := prints [text] ()

/-- Some texts are printed before it fails. -/
def failsWith (texts : List (List Char)) : Course α := fun _ => ⟨texts, none⟩

/-- A drawing is made. -/
def makes (f : IdSupply → Drawn) : Course Schema :=
  fun ids => ⟨[], some ((f ids).schema, (f ids).ids)⟩

/-- A drawing is made, or a text is printed about the fault before it fails. -/
def draws {ε : Type} (f : IdSupply → Except ε Drawn) (text : ε → List Char) :
    Course Schema := fun ids =>
  match f ids with
  | .error fault => ⟨[text fault], none⟩
  | .ok drawn => ⟨[], some (drawn.schema, drawn.ids)⟩

/-- A file is opened. -/
def opens (folder : Folder) (place : List Char) (extensions : List String) : Course FileContent :=
  match folder.lookup (String.ofList place) with
  | none => failsWith ["File does not exist: ".toList ++ place]
  | some content =>
    if hasExtension extensions place then pure content
    else failsWith ["File has invalid extension, expected one of: ".toList
      ++ (", ".intercalate extensions).toList]

/-- A script is read. -/
def readsScript (folder : Folder) (place : List Char) : Course Schema := do
  let content ← opens folder place scriptExtensions
  shows ("SQL script: ".toList ++ place)
  makes (Script.draw content.readText)

/-- A document is read. -/
def readsDocument (folder : Folder) (place : List Char) : Course Schema := do
  let content ← opens folder place documentExtensions
  shows ("Schema document: ".toList ++ place)
  draws (Document.loadText content.readText) fun faults =>
    (Document.headline faults).toList ++ Document.details .text faults

/-- A database is read. -/
def readsDatabase (folder : Folder) (place : List Char) : Course Schema := do
  let _ ← opens folder place databaseExtensions
  shows ("Source database: ".toList ++ place)
  let failure := "Failed to read database: ".toList
  match catalogueAt? folder place with
  | none => failsWith [failure]
  | some catalogue => draws catalogue.draw fun fault => failure ++ fault.wording.toList

/-- An import without tables fails. -/
def requiresTables (s : Schema) : Course Unit :=
  if s.tables.isEmpty then failsWith ["No CREATE TABLE statements were found".toList] else pure ()

/-- The texts of a drawing that are read for tags: none of a document, of a summary all cells, row
by row. -/
def schemaTexts (s : Schema) : Format → List (List Char)
  | .json => []
  | .table => s.tables.flatMap fun t => (summaryCells s t).map String.toList

/-- A drawing is printed. -/
def showsSchema (s : Schema) (format : Format) : Course Unit := prints (schemaTexts s format) ()

end Course

open Course

/-- What a command prints. -/
def Command.course (folder : Folder) : Command → Course Unit
  | parse script format => do
    let s ← readsScript folder script
    requiresTables s
    showsSchema s format
    shows ("Imported ".toList ++ countText s.tables.length ++ " table(s) and ".toList
      ++ countText s.relations.length ++ " relation(s)".toList)
  | merge document script mode format => do
    let current ← readsDocument folder document
    let imported ← readsScript folder script
    requiresTables imported
    shows ("Import mode: ".toList ++ mode.name.toList)
    showsSchema (current.importFrom imported mode) format
    shows ("Imported ".toList ++ countText imported.tables.length ++ " table(s) (".toList
      ++ mode.name.toList ++ [')'])
  | generate document => do
    let s ← readsDocument folder document
    if (Export.script s).isEmpty then shows "Schema is empty, nothing to generate".toList
    else shows "DDL generation completed successfully".toList
  | reflect database format => do
    let s ← readsDatabase folder database
    requiresTables s
    showsSchema s format
    shows "Schema reflection completed successfully".toList
  | summary document => do
    let s ← readsDocument folder document
    showsSchema s .table

/-! ### Actions that follow a course -/

/-- Is the last message that of an error? -/
def Progress.EndsInError (p : Progress) : Prop :=
  ∃ earlier rest, p.messages = earlier ++ ["Error:".toList ++ rest]

/-- Is this what an action ends in that prints some texts and gives this value? If one of the texts
cannot be printed, it breaks off, and if it fails, an error is the last that it prints. -/
def Shown.IsMetBy (s : Shown α) : Except Halt α × Progress → Prop
  | (.ok a, q) => (∀ text ∈ s.texts, Renders text) ∧ s.value = some (a, q.ids)
  | (.error .failed, q) => (∀ text ∈ s.texts, Renders text) ∧ s.value = none ∧ q.EndsInError
  | (.error .badMarkup, _) => ∃ text ∈ s.texts, ¬Renders text

/-- Does an action follow a course, wherever it starts? -/
def Follows (x : Action α) (c : Course α) : Prop := ∀ p, (c p.ids).IsMetBy (x.run.run p)

theorem bind_of_some {c : Course α} {d : α → Course β} {ids rest : IdSupply} {a : α}
    (h : (c ids).value = some (a, rest)) :
    (c >>= d) ids = ⟨(c ids).texts ++ (d a rest).texts, (d a rest).value⟩ := by
  show (match (c ids).value with | none => _ | some (a, rest) => _) = _
  rw [h]

theorem bind_of_none {c : Course α} {d : α → Course β} {ids : IdSupply} (h : (c ids).value = none) :
    (c >>= d) ids = ⟨(c ids).texts, none⟩ := by
  show (match (c ids).value with | none => _ | some (a, rest) => _) = _
  rw [h]

/-- What is printed first is printed. -/
theorem texts_subset_bind (c : Course α) (d : α → Course β) (ids : IdSupply) :
    (c ids).texts ⊆ ((c >>= d) ids).texts := by
  cases h : (c ids).value with
  | none => rw [bind_of_none h]; exact List.Subset.refl _
  | some found => rw [bind_of_some h]; exact List.subset_append_left _ _

theorem run_bind (x : Action α) (f : α → Action β) (p : Progress) :
    (x >>= f).run.run p = match x.run.run p with
      | (.ok a, q) => (f a).run.run q
      | (.error halt, q) => (.error halt, q) := by
  show (ExceptT.run (x >>= f)).run p = _
  rw [ExceptT.run_bind]
  simp only [StateT.run_bind]
  rcases x.run.run p with ⟨result, q⟩
  cases result <;> rfl

/-- Actions follow their courses one after the other. -/
theorem Follows.bind {x : Action α} {c : Course α} {f : α → Action β} {d : α → Course β}
    (hx : Follows x c) (hf : ∀ a, Follows (f a) (d a)) : Follows (x >>= f) (c >>= d) := by
  intro p
  have hfirst := hx p
  rw [run_bind]
  generalize x.run.run p = outcome at hfirst ⊢
  obtain ⟨result, q⟩ := outcome
  cases result with
  -- the first part ends well, and the second one decides
  | ok a =>
    obtain ⟨htexts, hvalue⟩ := hfirst
    have hnext := hf a q
    rw [bind_of_some hvalue]
    simp only
    generalize (f a).run.run q = outcome at hnext ⊢
    obtain ⟨result, q'⟩ := outcome
    cases result with
    | ok b => exact ⟨List.forall_mem_append.mpr ⟨htexts, hnext.1⟩, hnext.2⟩
    -- the first part stops, and nothing of the second one is shown
    | error halt =>
      cases halt with
      | failed => exact ⟨List.forall_mem_append.mpr ⟨htexts, hnext.1⟩, hnext.2⟩
      | badMarkup =>
        obtain ⟨text, htext, hbad⟩ := hnext
        exact ⟨text, List.mem_append_right _ htext, hbad⟩
  | error halt =>
    cases halt with
    | failed =>
      obtain ⟨htexts, hvalue, herror⟩ := hfirst
      rw [bind_of_none hvalue]
      exact ⟨htexts, rfl, herror⟩
    | badMarkup =>
      obtain ⟨text, htext, hbad⟩ := hfirst
      exact ⟨text, texts_subset_bind c d p.ids htext, hbad⟩

/-- What an action prints whose own course is silent is what comes after it. -/
theorem Follows.silent {x : Action Unit} {f : Unit → Action β} {d : Course β}
    (hx : Follows x (pure ())) (hf : Follows (f ()) d) : Follows (x >>= f) d := hx.bind fun _ => hf

theorem follows_pure (a : α) : Follows (pure a) (pure a) := fun _ => ⟨List.forall_mem_nil _, rfl⟩

/-- An action that only changes the state, not the ids, prints nothing with tags. -/
theorem follows_modify {f : Progress → Progress} (h : ∀ p, (f p).ids = p.ids) :
    Follows (modify f : Action Unit) (pure ()) := by
  intro p
  refine ⟨List.forall_mem_nil _, ?_⟩
  show some ((), p.ids) = some ((), (f p).ids)
  rw [h]

theorem follows_put (cs : List Char) : Follows (put cs) (pure ()) := follows_modify fun _ => rfl

theorem follows_note (notices : List Notice) : Follows (note notices) (pure ()) :=
  follows_modify fun _ => rfl

/-- The text without its tags, empty if it cannot be printed. -/
def plainOf (cs : List Char) : List Char := (render cs).toOption.getD []

theorem follows_rendered (cs : List Char) : Follows (rendered cs) (prints [cs] (plainOf cs)) := by
  intro p
  unfold rendered
  cases h : render cs with
  | ok plain =>
    refine ⟨List.forall_mem_singleton.mpr ⟨plain, h⟩, ?_⟩
    simp only [plainOf, h]
    rfl
  | error fault => exact ⟨cs, List.mem_singleton_self cs, not_renders_of_error h⟩

theorem run_printMessage (style mark : String) (message : List Char) (p : Progress) :
    (printMessage style mark message).run.run p = match render (markedLine style mark message) with
      | .ok line => (.ok (), { p with messages := p.messages ++ [line] })
      | .error _ => (.error .badMarkup, p) := by
  have hstart : printMessage style mark message =
      rendered (markedLine style mark message) >>= fun line =>
      modify fun p => { p with messages := p.messages ++ [line] } := rfl
  rw [hstart, run_bind, rendered]
  cases render (markedLine style mark message) <;> rfl

theorem follows_printMessage {style mark : String} (h : (style, mark) ∈ marks)
    (message : List Char) : Follows (printMessage style mark message) (shows message) := by
  have hline := renders_markedLine_iff h message
  intro p
  rw [run_printMessage]
  cases hrender : render (markedLine style mark message) with
  | ok line => exact ⟨List.forall_mem_singleton.mpr (hline.mp ⟨line, hrender⟩), rfl⟩
  | error fault =>
    exact ⟨message, List.mem_singleton_self message, fun hmessage =>
      not_renders_of_error hrender (hline.mpr hmessage)⟩

theorem follows_printInfo (message : List Char) : Follows (printInfo message) (shows message) :=
  follows_printMessage (by simp [marks]) message

theorem follows_printSuccess (message : List Char) :
    Follows (printSuccess message) (shows message) :=
  follows_printMessage (by simp [marks]) message

theorem run_printMessage_throw (style mark : String) (message : List Char) (halt : Halt)
    (p : Progress) :
    (printMessage style mark message >>= fun _ => throw halt : Action α).run.run p =
      match render (markedLine style mark message) with
      | .ok line => (.error halt, { p with messages := p.messages ++ [line] })
      | .error _ => (.error .badMarkup, p) := by
  rw [run_bind, run_printMessage]
  cases render (markedLine style mark message) <;> rfl

/-- A failure prints its message as an error, and nothing after it. -/
theorem follows_fail (message : List Char) :
    Follows (fail message : Action α) (failsWith [message]) := by
  have hmark : ("bold red", "Error:") ∈ marks := by simp [marks]
  have hline := renders_markedLine_iff hmark message
  intro p
  rw [fail, run_printMessage_throw]
  cases hrender : render (markedLine "bold red" "Error:" message) with
  | ok line =>
    -- the line that was printed begins with the mark of an error
    have herror : Progress.EndsInError { p with messages := p.messages ++ [line] } := by
      obtain ⟨rest, hrest⟩ := exists_of_render_error hrender
      exact ⟨p.messages, rest, by rw [hrest]⟩
    exact ⟨List.forall_mem_singleton.mpr (hline.mp ⟨line, hrender⟩), rfl, herror⟩
  | error fault =>
    exact ⟨message, List.mem_singleton_self message, fun hmessage =>
      not_renders_of_error hrender (hline.mpr hmessage)⟩

/-! ### Parts of commands -/

theorem follows_openFile (folder : Folder) (place : List Char) (extensions : List String) :
    Follows (openFile folder place extensions) (opens folder place extensions) := by
  unfold openFile opens
  cases folder.lookup (String.ofList place) with
  | none => exact follows_fail _
  | some content =>
    by_cases h : hasExtension extensions place = true
    · simp only [h, if_true]
      exact follows_pure content
    · simp only [h]
      exact follows_fail _

/-- A drawing is made from the ids that are left. -/
theorem follows_makes (f : IdSupply → Drawn) :
    Follows (do
      let drawn ← withIds f (·.ids)
      note drawn.notices
      return drawn.schema) (makes f) :=
  fun _ => ⟨List.forall_mem_nil _, rfl⟩

theorem follows_readScript (folder : Folder) (place : List Char) :
    Follows (readScript folder place) (readsScript folder place) := by
  refine (follows_openFile folder place scriptExtensions).bind fun content => ?_
  refine (follows_printInfo _).bind fun _ => ?_
  exact follows_makes _

/-- A drawing that may have faults is made from the ids that are left. -/
theorem follows_draws {ε : Type} {f : IdSupply → Except ε Drawn} {x : Progress → Action Schema}
    {text : ε → List Char} (herror : ∀ p fault, f p.ids = .error fault → x p = fail (text fault))
    (hok : ∀ p drawn, f p.ids = .ok drawn →
      (x p).run.run p =
        (.ok drawn.schema, { p with ids := drawn.ids, notices := p.notices ++ drawn.notices })) :
    Follows (get >>= x) (draws f text) := by
  intro p
  rw [run_bind]
  show Shown.IsMetBy _ ((x p).run.run p)
  unfold draws
  cases hf : f p.ids with
  | error fault =>
    rw [herror p fault hf]
    exact follows_fail (text fault) p
  | ok drawn =>
    rw [hok p drawn hf]
    exact ⟨List.forall_mem_nil _, rfl⟩

theorem follows_readDocument (folder : Folder) (place : List Char) :
    Follows (readDocument folder place) (readsDocument folder place) := by
  refine (follows_openFile folder place documentExtensions).bind fun content => ?_
  refine (follows_printInfo _).bind fun _ => follows_draws (fun p fault h => ?_) fun p drawn h => ?_
  · rw [h]
  · rw [h]
    rfl

theorem follows_readDatabase (folder : Folder) (place : List Char) :
    Follows (readDatabase folder place) (readsDatabase folder place) := by
  refine (follows_openFile folder place databaseExtensions).bind fun _ => ?_
  refine (follows_printInfo _).bind fun _ => ?_
  cases catalogueAt? folder place with
  | none => exact follows_fail _
  | some catalogue =>
    refine follows_draws (fun p fault h => ?_) fun p drawn h => ?_
    · rw [h]
    · rw [h]
      rfl

theorem follows_requireTables (s : Schema) : Follows (requireTables s) (requiresTables s) := by
  unfold requireTables requiresTables
  by_cases h : s.tables.isEmpty = true
  · simp only [h, if_true]
    exact follows_fail _
  · simp only [h]
    exact follows_pure ()

/-- Items are treated one after the other. -/
theorem follows_mapM {γ : Type} {f : γ → Action β} {texts : γ → List (List Char)} {value : γ → β}
    (h : ∀ a, Follows (f a) (prints (texts a) (value a))) (as : List γ) :
    Follows (as.mapM f) (prints (as.flatMap texts) (as.map value)) := by
  induction as with
  | nil => rw [List.mapM_nil]; exact follows_pure []
  | cons a as ih =>
    have hcourse :
        (prints (texts a) (value a) >>= fun b =>
          prints (as.flatMap texts) (as.map value) >>= fun bs => pure (b :: bs)) =
            prints ((a :: as).flatMap texts) ((a :: as).map value) := by
      funext ids
      show Shown.mk (texts a ++ (as.flatMap texts ++ [])) _ = _
      rw [List.append_nil]
      rfl
    rw [List.mapM_cons, ← hcourse]
    exact (h a).bind fun b => ih.bind fun bs => follows_pure (b :: bs)

theorem follows_renderCells (cells : List String) :
    Follows (renderCells cells)
      (prints (cells.map String.toList) (cells.map fun cell => plainOf cell.toList)) := by
  rw [renderCells, List.map_eq_flatMap (f := String.toList)]
  exact follows_mapM (fun cell => follows_rendered cell.toList) cells

theorem follows_putSummary (s : Schema) : Follows (putSummary s) (showsSchema s .table) := by
  unfold putSummary
  by_cases h : s.tables.isEmpty = true
  · have hsilent : showsSchema s .table = pure () := by
      rw [showsSchema, schemaTexts, List.isEmpty_iff.mp h]
      rfl
    simp only [h, if_true, hsilent]
    exact follows_put _
  · -- every cell is rendered before a line of the grid is put
    have hcourse : showsSchema s .table = prints (schemaTexts s .table) (s.tables.map fun t =>
        (summaryCells s t).map fun cell => plainOf cell.toList) >>= fun _ => pure () := by
      funext ids
      show _ = Shown.mk (schemaTexts s .table ++ []) _
      rw [List.append_nil]
      rfl
    simp only [h, hcourse]
    exact (follows_mapM (fun t => follows_renderCells (summaryCells s t)) s.tables).bind fun _ =>
      follows_put _

theorem follows_putSchema (s : Schema) :
    ∀ format, Follows (putSchema s format) (showsSchema s format)
  | .json => follows_put _
  | .table => follows_putSummary s

/-- A command follows its course. -/
theorem follows_perform (folder : Folder) (command : Command) :
    Follows (command.perform folder) (command.course folder) := by
  cases command with
  | parse script format =>
    refine (follows_readScript folder script).bind fun s => ?_
    refine (follows_requireTables s).bind fun _ => ?_
    refine (follows_putSchema s format).bind fun _ => ?_
    exact follows_printSuccess _
  | merge document script mode format =>
    refine (follows_readDocument folder document).bind fun current => ?_
    refine (follows_readScript folder script).bind fun imported => ?_
    refine (follows_requireTables imported).bind fun _ => ?_
    refine (follows_printInfo _).bind fun _ => ?_
    refine (follows_putSchema _ format).bind fun _ => ?_
    exact follows_printSuccess _
  | generate document =>
    refine (follows_readDocument folder document).bind fun s => (follows_note _).silent ?_
    -- a script goes to the output as it is; only the message below it has tags read
    cases Export.script s with
    | nil =>
      rw [List.isEmpty_nil, if_pos rfl]
      exact follows_printInfo _
    | cons c cs =>
      rw [List.isEmpty_cons, if_neg Bool.false_ne_true]
      refine (follows_put (c :: cs)).silent ?_
      exact follows_printSuccess _
  | reflect database format =>
    refine (follows_readDatabase folder database).bind fun s => ?_
    refine (follows_requireTables s).bind fun _ => ?_
    refine (follows_putSchema s format).bind fun _ => ?_
    exact follows_printSuccess _
  | summary document =>
    refine (follows_readDocument folder document).bind fun s => ?_
    exact follows_putSchema s .table

/-! ### Endings -/

section Endings

variable {arguments : List String} {folder : Folder} {ids : IdSupply} {command : Command}

/-- How a command ends that prints some texts on its way to a value. -/
def Report.EndsAs (report : Report) (shown : Shown Unit) : Prop :=
  (report.ending = .badMarkup ∧ ∃ text ∈ shown.texts, ¬Renders text) ∨
    (∀ text ∈ shown.texts, Renders text) ∧
      (report.ending = .finished 0 ∧ shown.value.isSome ∨
        report.ending = .finished 1 ∧ shown.value = none ∧ report.progress.EndsInError)

theorem endsAs_run (h : readCommand arguments = some command) :
    (run arguments folder ids).EndsAs (command.course folder ids) := by
  have hfollows := follows_perform folder command ⟨[], [], [], ids⟩
  unfold run
  rw [h]
  simp only
  generalize (command.perform folder).run.run ⟨[], [], [], ids⟩ = outcome at hfollows ⊢
  obtain ⟨result, q⟩ := outcome
  cases result with
  | ok a =>
    obtain ⟨htexts, hvalue⟩ := hfollows
    exact Or.inr ⟨htexts, Or.inl ⟨rfl, by rw [hvalue]; rfl⟩⟩
  | error halt =>
    cases halt with
    -- a message of the course has been printed, and the exit code is one
    | failed =>
      obtain ⟨htexts, hvalue, herror⟩ := hfollows
      exact Or.inr ⟨htexts, Or.inr ⟨rfl, hvalue, herror⟩⟩
    | badMarkup => exact Or.inl ⟨rfl, hfollows⟩

/-- A command that prints no closing tags ends well or with an error message. -/
theorem ending_run_of_avoids (h : readCommand arguments = some command)
    (htexts : ∀ text ∈ (command.course folder ids).texts, Avoids '[' '/' text) :
    (run arguments folder ids).ending = .finished 0 ∨
      (run arguments folder ids).ending = .finished 1 ∧
        (run arguments folder ids).progress.EndsInError := by
  have hends : (run arguments folder ids).EndsAs (command.course folder ids) := endsAs_run h
  obtain ⟨_, text, htext, hbad⟩ | ⟨_, hgood | hfailed⟩ := hends
  · exact absurd (renders_of_avoids (htexts text htext)) hbad
  · exact Or.inl hgood.1
  · exact Or.inr ⟨hfailed.1, hfailed.2.2⟩

end Endings

/-- A table with a closing tag for a name. -/
example : (run ["summary", "a.json"]
    [("a.json", .text "\x7b\"tables\": [\x7b\"id\": \"t\", \"name\": \"[/x]\"\x7d]\x7d")]
    IdSupply.tally).ending = .badMarkup := by
  decide +kernel

end SchemaDraft.Console
