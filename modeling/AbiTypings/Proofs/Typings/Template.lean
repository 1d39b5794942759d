import AbiTypings.Proofs.EvmType.Rendering
import AbiTypings.Proofs.Typings.Writing
import AbiTypings.Typings.Document

/-!
# The document as a list of rows

A document is written by steps that share one level of indentation and raise and lower it as they
go. Here the same document is a list of rows in which every indentation is spelled out:
`documentRows` knows no level, and so no step can disturb another one. The main statement is that
writing gives exactly these rows.

## Blocks and rows

The library joins lines in several rounds: the lines of a subscription to a block, the lines and
blocks of a class to a text, the parts of a document to the whole. `joinLines_blocks` undoes one
round. It needs every block to have a line, since the text of no lines and the text of an empty line
are the same.

## Levels

Members are described under every layout, and only the class itself fixes the levels: its members
stand at one, methods and events at two. That is where spelled out indentation comes from.
-/

namespace AbiTypings

/-! ## Rows of members -/

/-- The parameter list of a method, where nameless parameters are named by their places. -/
def parameterText (inputs : List Parameter) : Text :=
  Text.intercalate ", " (inputs.zipIdx.map fun (p, i) ↦
    (if p.name.truthy then p.name.display else "arg" ++ toString i) ++ ": " ++
      p.type.rendering .input)

/-- The fields of several results: the named ones under their names, then all under their places. -/
def resultFields (outputs : List Parameter) : List Text :=
  ((outputs.filter fun p ↦ p.name.truthy).map fun p ↦
      p.name.display ++ ": " ++ p.type.rendering .output : List Text) ++
    (outputs.zipIdx.map fun (p, i) ↦ toString i ++ ": " ++ p.type.rendering .output : List Text)

/-- The type of the result of a call. -/
def resultText : List Parameter → Text
  | [] => "void"
  | [p] => p.type.rendering .output
  | outputs => "\x7b " ++ Text.intercalate ", " (resultFields outputs) ++ " \x7d"

/-- The signature of a method. -/
def methodText (m : Method) : Text :=
  m.name.display ++ "(" ++ parameterText m.inputs ++ "): TransactionObject<" ++
    resultText m.outputs ++ ">;"

/-- The signature of an accessor. -/
def accessorText (a : Accessor) : Text :=
  a.name.display ++ "(): TransactionObject<" ++ a.output.type.rendering .output ++ ">;"

/-- The eight rows of a subscription that starts and ends with the given texts. -/
def subscriptionRows (opening closing : Text) : List Text :=
  ["    " ++ opening,
   "      options?: \x7b",
   "        filter?: object;",
   "        fromBlock?: Block;",
   "        topics?: (null | string)[];",
   "      \x7d,",
   "      cb?: Callback<EventLog>",
   "    " ++ closing]

/-! ## Rows of a document -/

def headRows : List Text :=
  ["/* Generated by abi2ts. Do not edit. */",
   "/* tslint:disable */",
   ""]

def importRows : List Text :=
  ["import \x7b Contract, ContractOptions \x7d from \"web3-eth-contract\";",
   "import \x7b Transaction, EventLog, PromiEvent \x7d from \"web3-core\";",
   "import \x7b Block \x7d from \"web3-eth\";",
   "import \x7b EventEmitter \x7d from \"events\";",
   ""]

def preambleRows : List Text :=
  ["export type Callback<T> = (error: Error, result: T) => void;",
   "",
   "interface TransactionObject<T> \x7b",
   "  arguments: any[];",
   "  call(tx?: Transaction): Promise<T>;",
   "  send(tx?: Transaction): PromiEvent<T>;",
   "  estimateGas(tx?: Transaction): Promise<number>;",
   "  encodeABI(): string;",
   "\x7d",
   ""]

/-- The rows of the methods of a class: constant functions, functions, accessors. -/
def methodRows (c : Contract) : List Text :=
  c.constantFunctions.map (fun m ↦ "    " ++ methodText m) ++
    c.functions.map (fun f ↦ "    " ++ methodText f.toMethod) ++
    c.accessors.map fun a ↦ "    " ++ accessorText a

/-- The rows of the events of a class: one block for each event, and one for all together. -/
def eventRows (c : Contract) : List Text :=
  c.events.flatMap (fun e ↦ subscriptionRows (e.name.display ++ "(") "): EventEmitter;") ++
    subscriptionRows "allEvents: (" ") => EventEmitter;"

def classRows (c : Contract) : List Text :=
  (["export class " ++ c.name.display ++ " extends Contract \x7b",
    "  constructor(jsonInterface: any[], address?: string, options?: ContractOptions);",
    "  methods: \x7b"] : List Text) ++
  methodRows c ++
  (["  \x7d;",
    "  events: \x7b"] : List Text) ++
  eventRows c ++
  (["  \x7d;",
    "  clone(): " ++ c.name.display ++ ";",
    "\x7d"] : List Text)

/-- The rows of a document. The last one is empty, since a line feed ends the row before it. -/
def documentRows (c : Contract) : List Text :=
  headRows ++ importRows ++ preambleRows ++ classRows c ++ [("" : Text)]

/-! ## Contracts that can be written -/

/-- The types of all inputs and outputs of a method have renderings. -/
structure Method.Renders (m : Method) : Prop where
  /-- Inputs go in. -/
  inputs : ∀ p ∈ m.inputs, p.type.Renders .input
  /-- Outputs come out. -/
  outputs : ∀ p ∈ m.outputs, p.type.Renders .output

/-- The types of everything that is called have renderings. Arguments of events do not count. -/
structure Contract.Renders (c : Contract) : Prop where
  /-- Constant functions. -/
  constantFunctions : ∀ m ∈ c.constantFunctions, m.Renders
  /-- Functions. -/
  functions : ∀ f ∈ c.functions, f.toMethod.Renders
  /-- Accessors, which have no inputs. -/
  accessors : ∀ a ∈ c.accessors, a.output.type.Renders .output

/-! ## Texts of methods -/

theorem renderInputs_eq {inputs : List Parameter} (h : ∀ p ∈ inputs, p.type.Renders .input) :
    renderInputs inputs = .ok (parameterText inputs) := by
  have hfields : ∀ c ∈ inputs.map (fun p ↦ (p.name, p.type)), c.2.Renders .input := by
    intro c hc
    obtain ⟨p, hp, rfl⟩ := List.mem_map.mp hc
    exact h p hp
  rw [renderInputs, EvmType.renderFields_eq hfields, List.zipIdx_map, List.map_map, parameterText]
  simp only [Function.comp_def, Prod.map, id, fieldName_eq]
  rfl

theorem mapM_render_eq {outputs : List Parameter} (h : ∀ p ∈ outputs, p.type.Renders .output) :
    outputs.mapM (fun p ↦ p.type.render .output)
      = .ok (outputs.map fun p ↦ p.type.rendering .output) := by
  induction outputs with
  | nil => rfl
  | cons p rest ih =>
    have hp := (h p List.mem_cons_self).render_eq
    have hrest := ih fun q hq ↦ h q (List.mem_cons_of_mem p hq)
    rw [List.mapM_cons, hp, hrest, List.map_cons]
    rfl

theorem namedFields_eq (outputs : List Parameter) (text : Parameter → Text) :
    namedFields outputs (outputs.map text)
      = (outputs.filter fun p ↦ p.name.truthy).map fun p ↦ p.name.display ++ ": " ++ text p := by
  induction outputs with
  | nil => rfl
  | cons p rest ih =>
    rw [namedFields] at ih ⊢
    rw [List.map_cons, List.zip_cons_cons, List.filterMap_cons, List.filter_cons, ih]
    cases hp : p.name.truthy <;> simp [hp]

theorem placedFields_eq (outputs : List Parameter) (text : Parameter → Text) :
    placedFields (outputs.map text)
      = outputs.zipIdx.map fun (p, i) ↦ toString i ++ ": " ++ text p := by
  rw [placedFields, List.zipIdx_map, List.map_map]
  rfl

theorem resultFields_eq (outputs : List Parameter) :
    resultFields outputs
      = namedFields outputs (outputs.map fun p ↦ p.type.rendering .output) ++
          placedFields (outputs.map fun p ↦ p.type.rendering .output) := by
  rw [namedFields_eq, placedFields_eq, resultFields]

theorem renderOutputs_eq {outputs : List Parameter}
    (h : ∀ p ∈ outputs, p.type.Renders .output) :
    renderOutputs outputs = .ok (resultText outputs) := by
  match outputs, h with
  | [], _ => rfl
  | [p], h => exact (h p List.mem_cons_self).render_eq
  | p :: q :: rest, h =>
    have hfields : (resultFields (p :: q :: rest)).isEmpty = false := by
      simp [resultFields, List.zipIdx_cons]
    calc renderOutputs (p :: q :: rest)
        = (p :: q :: rest).mapM (fun p ↦ p.type.render .output) >>= fun types ↦
            .ok (recordText (namedFields (p :: q :: rest) types ++ placedFields types)) := rfl
      _ = .ok (recordText (resultFields (p :: q :: rest))) := by
          rw [mapM_render_eq h, resultFields_eq]
          rfl
      _ = .ok (resultText (p :: q :: rest)) := by
          rw [recordText, hfields]
          rfl

/-! ## Members -/

section Members

open LayoutM

variable {l : Layout}

theorem writes_methodLine {m : Method} (h : m.Renders) :
    Writes (methodLine m) l (l.indent ++ methodText m) :=
  (writes_ofExcept (renderInputs_eq h.inputs)).bind <|
    (writes_ofExcept (renderOutputs_eq h.outputs)).bind (writes_line _)

theorem writes_accessorLine {a : Accessor} (h : a.output.type.Renders .output) :
    Writes (accessorLine a) l (l.indent ++ accessorText a) :=
  (writes_ofExcept h.render_eq).bind (writes_line _)

theorem writes_subscriptionLines : Writes subscriptionLines l
    [l.deeper.indent ++ "options?: \x7b",
     l.deeper.deeper.indent ++ "filter?: object;",
     l.deeper.deeper.indent ++ "fromBlock?: Block;",
     l.deeper.deeper.indent ++ "topics?: (null | string)[];",
     l.deeper.indent ++ "\x7d,",
     l.deeper.indent ++ "cb?: Callback<EventLog>"] :=
  .indented <| (writes_line _).bind <| (writes_mapM_line _).indented.bind <|
    (writes_line _).bind <| (writes_line _).bind (writes_pure _)

/-- The layout under which methods and events are written. -/
private def memberLayout : Layout := { level := 2 }

private theorem writes_memberSubscription : Writes subscriptionLines memberLayout
    ["      options?: \x7b",
     "        filter?: object;",
     "        fromBlock?: Block;",
     "        topics?: (null | string)[];",
     "      \x7d,",
     "      cb?: Callback<EventLog>"] := by
  have houter : memberLayout.deeper.indent = "      " := rfl
  have hinner : memberLayout.deeper.deeper.indent = "        " := rfl
  exact .indented <| (writes_row houter rfl).bind <|
    (writes_rows hinner ["filter?: object;", "fromBlock?: Block;",
      "topics?: (null | string)[];"]).indented.bind <|
    (writes_row houter rfl).bind <| (writes_row houter rfl).bind (writes_pure _)

theorem writes_eventBlock (e : Event) : Writes (eventBlock e) memberLayout
    (joinLines (subscriptionRows (e.name.display ++ "(") "): EventEmitter;")) :=
  (writes_line _).bind <| writes_memberSubscription.bind <| (writes_line _).bind (writes_pure _)

theorem writes_allEventsBlock : Writes allEventsBlock memberLayout
    (joinLines (subscriptionRows "allEvents: (" ") => EventEmitter;")) :=
  (writes_line _).bind <| writes_memberSubscription.bind <| (writes_line _).bind (writes_pure _)

theorem writes_methodLines {c : Contract} (h : c.Renders) :
    Writes (methodLines c) memberLayout (methodRows c) :=
  (writes_mapM fun m hm ↦ writes_methodLine (h.constantFunctions m hm)).bind <|
    (writes_mapM fun f hf ↦ writes_methodLine (h.functions f hf)).bind <|
      (writes_mapM fun a ha ↦ writes_accessorLine (h.accessors a ha)).bind (writes_pure _)

/-- The blocks of the events of a class, before they are joined with what surrounds them. -/
private def eventBlocks (c : Contract) : List (List Text) :=
  c.events.map (fun e ↦ subscriptionRows (e.name.display ++ "(") "): EventEmitter;") ++
    [subscriptionRows "allEvents: (" ") => EventEmitter;"]

private theorem flatten_eventBlocks (c : Contract) : (eventBlocks c).flatten = eventRows c := by
  rw [eventBlocks, List.flatten_append, ← List.flatMap_def, List.flatten_singleton, eventRows]

theorem writes_eventLines (c : Contract) :
    Writes (eventLines c) memberLayout ((eventBlocks c).map joinLines) := by
  rw [eventBlocks, List.map_append, List.map_map]
  exact (writes_mapM fun e _ ↦ writes_eventBlock e).bind <|
    writes_allEventsBlock.bind (writes_pure _)

end Members

/-! ## Joining rows -/

theorem joinLines_map_ofString (rows : List String) :
    joinLines (rows.map Text.ofString) = "\n".intercalate rows :=
  Text.intercalate_map_ofString "\n" rows

/-- Joining lines to texts first and then the texts gives the same as joining all lines at once. -/
theorem joinLines_flatten (blocks : List (List Text)) (h : ∀ block ∈ blocks, block ≠ []) :
    joinLines (blocks.map joinLines) = joinLines blocks.flatten := by
  induction blocks with
  | nil => rfl
  | cons block rest ih =>
    have hblock := h block List.mem_cons_self
    have hrest := ih fun b hb ↦ h b (List.mem_cons_of_mem block hb)
    by_cases hnil : rest = []
    · subst hnil
      rw [List.map_cons, List.map_nil, List.flatten_singleton, joinLines,
        Text.intercalate_singleton]
    · have hflat : rest.flatten ≠ [] := by
        obtain ⟨b, rest', rfl⟩ := List.exists_cons_of_ne_nil hnil
        rw [List.flatten_cons]
        exact List.append_ne_nil_of_left_ne_nil (h b (by simp)) _
      calc joinLines ((block :: rest).map joinLines)
          = joinLines block ++ "\n" ++ joinLines (rest.map joinLines) := by
            rw [List.map_cons, joinLines, Text.intercalate_cons_of_ne_nil (by simpa using hnil)]
            rfl
        _ = joinLines block ++ "\n" ++ joinLines rest.flatten := by rw [hrest]
        _ = joinLines (block :: rest).flatten := by
            rw [List.flatten_cons, joinLines, joinLines, joinLines,
              Text.intercalate_append_of_ne_nil hblock hflat]

theorem joinLines_blocks (before : List Text) (blocks : List (List Text))
    (after : List Text) (h : ∀ block ∈ blocks, block ≠ []) :
    joinLines (before ++ blocks.map joinLines ++ after)
      = joinLines (before ++ blocks.flatten ++ after) := by
  -- A single line is a block of its own, and then there are only blocks.
  have hjoined : ∀ lines : List Text, (lines.map fun line ↦ [line]).map joinLines = lines := by
    intro lines
    simp [joinLines, Function.comp_def]
  have hflat : ∀ lines : List Text, (lines.map fun line ↦ [line]).flatten = lines := by
    intro lines
    rw [← List.flatMap_def, List.flatMap_singleton']
  have hall : ∀ block ∈ before.map (fun line ↦ [line]) ++ blocks ++ after.map (fun line ↦ [line]),
      block ≠ [] := by
    simp only [List.mem_append, List.mem_map]
    rintro block ((⟨line, -, rfl⟩ | hblock) | ⟨line, -, rfl⟩)
    · exact List.cons_ne_nil line []
    · exact h block hblock
    · exact List.cons_ne_nil line []
  have hjoin := joinLines_flatten _ hall
  rw [List.map_append, List.map_append, hjoined, hjoined, List.flatten_append, List.flatten_append,
    hflat, hflat] at hjoin
  exact hjoin

/-! ## The class and the document -/

section Document

open LayoutM

variable {c : Contract}

theorem eventBlocks_ne_nil : ∀ block ∈ eventBlocks c, block ≠ [] := by
  intro block hblock
  rw [eventBlocks, List.mem_append, List.mem_map, List.mem_singleton] at hblock
  rcases hblock with ⟨e, -, rfl⟩ | rfl
  · exact List.cons_ne_nil _ _
  · exact List.cons_ne_nil _ _

/-- The members of a class at the level where they stand, subscriptions still in blocks. -/
private def memberTexts (c : Contract) : List Text :=
  (["  constructor(jsonInterface: any[], address?: string, options?: ContractOptions);",
    "  methods: \x7b"] : List Text) ++ methodRows c ++
  (["  \x7d;", "  events: \x7b"] : List Text) ++ (eventBlocks c).map joinLines ++
  (["  \x7d;", "  clone(): " ++ c.name.display ++ ";"] : List Text)

private theorem joinLines_memberTexts (c : Contract) :
    joinLines (("export class " ++ c.name.display ++ " extends Contract \x7b") ::
        memberTexts c ++ (["\x7d"] : List Text))
      = joinLines (classRows c) := by
  have hrows := joinLines_blocks
    ((["export class " ++ c.name.display ++ " extends Contract \x7b",
      "  constructor(jsonInterface: any[], address?: string, options?: ContractOptions);",
      "  methods: \x7b"] : List Text) ++ methodRows c ++
      (["  \x7d;", "  events: \x7b"] : List Text)) (eventBlocks c)
    ["  \x7d;", "  clone(): " ++ c.name.display ++ ";", "\x7d"] eventBlocks_ne_nil
  rw [classRows, ← flatten_eventBlocks, ← hrows, memberTexts]
  simp only [List.cons_append, List.nil_append, List.append_assoc]

/-- Both inner levels are left again before the class is closed. -/
theorem writes_classBlock (h : c.Renders) : Writes (classBlock c) {} (joinLines (classRows c)) := by
  rw [← joinLines_memberTexts]
  -- The level of the members is left by the step that entered it, before the closing brace.
  refine Writes.bind (a := memberTexts c) (.indented ?_) (writes_pure _)
  have hindent : ({} : Layout).deeper.indent = "  " := rfl
  have hclone : Writes (line ("clone(): " ++ c.name.display ++ ";")) ({} : Layout).deeper
      ("  clone(): " ++ c.name.display ++ ";") := by
    have hline := writes_line (l := ({} : Layout).deeper) ("clone(): " ++ c.name.display ++ ";")
    rwa [hindent, ← Text.append_assoc, ← Text.append_assoc, ← Text.ofString_append] at hline
  exact (writes_row hindent rfl).bind <| (writes_row hindent rfl).bind <|
    (writes_methodLines h).indented.bind <| (writes_row hindent rfl).bind <|
      (writes_row hindent rfl).bind <| (writes_eventLines c).indented.bind <|
        (writes_row hindent rfl).bind <| hclone.bind (writes_pure _)

theorem writes_transactionBlock :
    Writes transactionBlock {} (joinLines (preambleRows.drop 2)) := by
  have hclose := joinLines_blocks
    ["interface TransactionObject<T> \x7b",
     "  arguments: any[];",
     "  call(tx?: Transaction): Promise<T>;",
     "  send(tx?: Transaction): PromiEvent<T>;",
     "  estimateGas(tx?: Transaction): Promise<number>;",
     "  encodeABI(): string;"] [["\x7d", ""]] [] (by simp)
  rw [preambleRows, List.drop_succ_cons, List.drop_succ_cons, List.drop_zero]
  refine Eq.trans ?_ (congrArg (fun text ↦ EStateM.Result.ok text _) hclose)
  have hindent : ({} : Layout).deeper.indent = "  " := rfl
  have hmembers := writes_rows hindent
    ["arguments: any[];", "call(tx?: Transaction): Promise<T>;",
      "send(tx?: Transaction): PromiEvent<T>;", "estimateGas(tx?: Transaction): Promise<number>;",
      "encodeABI(): string;"]
  exact hmembers.indented.bind (writes_pure _)

theorem callbackText_eq : callbackText = joinLines (preambleRows.take 2) :=
  (joinLines_map_ofString ["export type Callback<T> = (error: Error, result: T) => void;",
    ""]).symm

theorem writes_preambleBlock : Writes preambleBlock {} (joinLines preambleRows) := by
  have hparts := joinLines_flatten [preambleRows.take 2, preambleRows.drop 2]
    (by simp [preambleRows])
  rw [List.flatten_cons, List.flatten_singleton, List.take_append_drop, List.map_cons,
    ← callbackText_eq] at hparts
  rw [← hparts]
  exact writes_transactionBlock.bind (writes_pure _)

theorem headerText_eq : headerText = joinLines headRows :=
  (joinLines_map_ofString ["/* Generated by abi2ts. Do not edit. */", "/* tslint:disable */",
    ""]).symm

theorem importText_eq : importText = joinLines importRows := by
  simp [importText, importRows, importedNames, recordText, ← Text.ofString_append,
    Text.intercalate_cons_of_ne_nil]

theorem joinLines_documentRows (c : Contract) :
    joinLines (documentRows c)
      = joinLines [headerText, importText, joinLines preambleRows, joinLines (classRows c)]
          ++ "\n" := by
  have hparts := joinLines_flatten [headRows, importRows, preambleRows, classRows c]
    (by simp [headRows, importRows, preambleRows, classRows])
  have hne : headRows ++ importRows ++ preambleRows ++ classRows c ≠ [] := by
    simp [headRows]
  calc joinLines (documentRows c)
      = joinLines (headRows ++ importRows ++ preambleRows ++ classRows c) ++ "\n" := by
        rw [documentRows, joinLines,
          Text.intercalate_append_of_ne_nil hne (List.cons_ne_nil _ _),
          Text.intercalate_singleton, Text.append_empty]
        rfl
    _ = joinLines [headerText, importText, joinLines preambleRows, joinLines (classRows c)]
          ++ "\n" := by
        rw [List.flatten_cons, List.flatten_cons, List.flatten_cons, List.flatten_singleton,
          ← List.append_assoc, ← List.append_assoc] at hparts
        rw [headerText_eq, importText_eq, ← hparts]
        rfl

/-- The document is written from level zero on, and level zero is where writing ends. -/
theorem writes_documentText (h : c.Renders) :
    Writes (documentText c) {} (joinLines (documentRows c)) := by
  have hstart : Writes (setLevel 0) {} () := rfl
  rw [joinLines_documentRows]
  exact hstart.bind <| writes_preambleBlock.bind <| (writes_classBlock h).bind (writes_pure _)

end Document

/-! ## Writing and spelling out agree -/

/-- **Stateless form.** Whenever all types have renderings, the typings of a contract are its rows,
each with the indentation spelled out. -/
theorem typings_eq_documentRows (c : Contract) (h : c.Renders) :
    typings c = .ok (joinLines (documentRows c)) := by
  rw [typings, writes_documentText h]

/-- A contract with a member of every kind. -/
private def vault : Contract where
  name := .str "Vault"
  functions :=
    [⟨⟨.str "deposit", [⟨.str "amount", .uint 256⟩, ⟨.null, .array .address none⟩], []⟩, true⟩]
  constantFunctions :=
    [⟨.str "quote", [⟨.str "id", .bytes (some 32)⟩], [⟨.str "price", .int 128⟩, ⟨.null, .bool⟩]⟩]
  accessors := [⟨.str "owner", ⟨.null, .tuple [(.str "", .address), (.str "since", .uint 64)]⟩⟩]
  events := [⟨.str "Deposited", [], false⟩]

private theorem renders_vault : vault.Renders := by
  refine ⟨?_, ?_, ?_⟩
  · simp only [vault, List.forall_mem_singleton]
    refine ⟨?_, ?_⟩
    · simp only [List.forall_mem_singleton]
      exact ⟨_, rfl⟩
    · simp only [List.forall_mem_cons]
      exact ⟨⟨_, rfl⟩, ⟨_, rfl⟩, by simp⟩
  · simp only [vault, List.forall_mem_singleton]
    refine ⟨?_, by simp⟩
    simp only [List.forall_mem_cons]
    exact ⟨⟨_, rfl⟩, ⟨_, rfl⟩, by simp⟩
  · simp only [vault, List.forall_mem_singleton]
    exact ⟨_, rfl⟩

/-- The rows of a class in full, around those of its methods and its event. -/
theorem typings_eq_documentRows_vault : vault.Renders ∧
    typings vault = .ok (joinLines (headRows ++ importRows ++ preambleRows ++
      (["export class Vault extends Contract \x7b",
       "  constructor(jsonInterface: any[], address?: string, options?: ContractOptions);",
       "  methods: \x7b",
       "    quote(id: string | number[]): " ++
         "TransactionObject<\x7b price: string, 0: string, 1: boolean \x7d>;",
       "    deposit(amount: number | string, arg1: (string)[]): TransactionObject<void>;",
       "    owner(): TransactionObject<\x7b arg0: string, since: string \x7d>;",
       "  \x7d;",
       "  events: \x7b"] : List Text) ++
      subscriptionRows "Deposited(" "): EventEmitter;" ++
      subscriptionRows "allEvents: (" ") => EventEmitter;" ++
      (["  \x7d;",
       "  clone(): Vault;",
       "\x7d",
       ""] : List Text))) :=
  ⟨renders_vault, (typings_eq_documentRows vault renders_vault).trans (by rfl)⟩

end AbiTypings
