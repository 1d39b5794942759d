import AbiTypings.Proofs.Contract.Acceptance
import AbiTypings.Proofs.Contract.Partition

/-!
# Signatures of an accepted description

An entry that declares a function is kept as a constant function, as a function or as an accessor.
Accessors are treated in their own way twice. When they are read, only the first output is looked
at, and when they are written, there is no parameter list to render. `signatureLine` takes the way
that is open to all of these entries: it reads an entry as a function and writes the line of that.

Both ways lead to the same lines. An accessor is the method that reading its entry in full would
give (`Method.read_of_isSingleValue`), and the method is written as the accessor is
(`methodLine_toMethod`). So what an entry is kept as decides where its line stands and nothing else,
and the lines of a class are a permutation of the signature lines of its description.
-/

namespace AbiTypings

open LayoutM

/-! ## Writing accessors -/

/-- The method an accessor is, without inputs and with a single output. -/
def Accessor.toMethod (a : Accessor) : Method := ⟨a.name, [], [a.output]⟩

/-- An empty parameter list leaves the parentheses of an accessor. -/
theorem methodLine_toMethod (a : Accessor) : methodLine a.toMethod = accessorLine a := by
  have hcall : ∀ name : Text,
      name ++ "(" ++ "" ++ "): TransactionObject<" = name ++ "(): TransactionObject<" := by
    intro name
    rw [Text.append_empty, Text.append_assoc, ← Text.ofString_append]
    rfl
  calc methodLine a.toMethod
      = MonadExcept.ofExcept (a.output.type.render .output) >>= fun output ↦
          line (a.name.display ++ "(" ++ "" ++ "): TransactionObject<" ++ output ++ ">;") := rfl
    _ = accessorLine a := by
        simp only [hcall]
        rfl

/-- All methods of a contract in the order of its class. -/
def Contract.methods (c : Contract) : List Method :=
  c.constantFunctions ++ c.functions.map Function.toMethod ++ c.accessors.map Accessor.toMethod

theorem methodLines_eq (c : Contract) : methodLines c = c.methods.mapM methodLine := by
  have haccessors : methodLine ∘ Accessor.toMethod = accessorLine := funext methodLine_toMethod
  rw [Contract.methods, List.mapM_append, List.mapM_append, List.mapM_map, List.mapM_map,
    haccessors, methodLines]
  simp only [bind_assoc, pure_bind]
  rfl

/-! ## Reading accessors -/

/-- An accessor is what reading its entry in full gives: nothing in the place of its inputs says
something, and its first output is the only one. -/
theorem Method.read_of_isSingleValue {members : List (Text × Json)} {a : Accessor}
    (hsingle : isSingleValue (.obj members) = .ok true)
    (h : Accessor.read (.obj members) = .ok a) : Method.read (.obj members) = .ok a.toMethod := by
  obtain ⟨hinputs, hsize⟩ := eq_of_isSingleValue hsingle
  obtain ⟨name, hname, h⟩ := bind_eq_ok_iff.mp h
  obtain ⟨outputs, houtputs, h⟩ := bind_eq_ok_iff.mp h
  obtain ⟨raw, hraw, h⟩ := bind_eq_ok_iff.mp h
  obtain ⟨output, houtput, h⟩ := bind_eq_ok_iff.mp h
  obtain rfl := Except.ok.inj h
  obtain ⟨rest, rfl⟩ := eq_arr_of_first hraw houtput
  have hmember : (Json.obj members).memberOr "outputs" .null = .arr (raw :: rest) :=
    Json.memberOr_of_require houtputs .null
  rw [hmember] at hsize
  obtain rfl : rest = [] := by
    have hlength : (raw :: rest).length = 1 := Except.ok.inj hsize
    simpa using hlength
  have hnone : Parameter.readAll ((Json.obj members).memberOr "inputs" .null) = .ok [] := by
    rw [Parameter.readAll, Json.orElse, hinputs]
    rfl
  have hone : Parameter.readAll ((Json.obj members).memberOr "outputs" .null) = .ok [output] := by
    rw [hmember]
    exact mapM_cons_eq_ok_iff.mpr ⟨output, [], houtput, rfl, rfl⟩
  calc Method.read (.obj members)
      = (Json.obj members).require "name" >>= fun name ↦
          Parameter.readAll ((Json.obj members).memberOr "inputs" .null) >>= fun inputs ↦
            Parameter.readAll ((Json.obj members).memberOr "outputs" .null) >>= fun outputs ↦
              .ok ⟨name, inputs, outputs⟩ := rfl
    _ = .ok ⟨name, [], [output]⟩ := by
        rw [hname, hnone, hone]
        rfl

/-- Whether a method takes payments can be asked of everything that is read as a method. -/
theorem Function.exists_read {entry : Json} {m : Method} (h : Method.read entry = .ok m) :
    ∃ f, Function.read entry = .ok f ∧ f.toMethod = m := by
  cases entry with
  | obj members =>
    have hread : Function.read (.obj members) = Method.read (.obj members) >>= fun m ↦
        .ok { toMethod := m
              payable := ((Json.obj members).memberOr "payable" .null).truthy ||
                ((Json.obj members).memberOr "stateMutability" .null).isText ["payable"] } := rfl
    rw [hread, h]
    exact ⟨_, rfl, rfl⟩
  | _ => cases h

theorem Method.read_of_read_function {entry : Json} {f : Function}
    (h : Function.read entry = .ok f) : Method.read entry = .ok f.toMethod := by
  obtain ⟨payable, -, h⟩ := bind_eq_ok_iff.mp h
  obtain ⟨mutability, -, h⟩ := bind_eq_ok_iff.mp h
  obtain ⟨m, hm, h⟩ := bind_eq_ok_iff.mp h
  obtain rfl := Except.ok.inj h
  exact hm

/-! ## Signatures of entries -/

/-- Whether an entry declares a function, of whatever use. -/
def declaresFunction (entry : Json) : Bool := (declaredKind entry).isText ["function"]

/-- The line an entry has as a function, at the level where the methods of a class stand. -/
def signatureLine (entry : Json) : Except Fault Text := do
  let f ← Function.read entry
  match (methodLine f.toMethod).run { level := 2 } with
  | .ok text _ => .ok text
  | .error fault _ => .error fault

/-- The row of a method in a class. -/
private def methodRow (m : Method) : Text := "    " ++ methodText m

theorem signatureLine_of_read {entry : Json} {m : Method} (h : Method.read entry = .ok m) :
    signatureLine entry = .ok (methodRow m) := by
  have hrenders : m.Renders := (Method.yields_read entry).of_ok h
  obtain ⟨f, hf, rfl⟩ := Function.exists_read h
  rw [signatureLine, hf]
  change (match (methodLine f.toMethod).run { level := 2 } with
    | .ok text _ => Except.ok text
    | .error fault _ => .error fault) = _
  rw [writes_methodLine hrenders]
  rfl

theorem declaresFunction_eq (entry : Json) : declaresFunction entry =
    decide (entryGroup entry ≠ .event ∧ entryGroup entry ≠ .skipped) := by
  rw [declaresFunction, entryGroup]
  split
  · next hkind =>
    rw [Json.string?_eq_some_iff.mp hkind]
    split
    · rfl
    · split <;> rfl
  · next hkind =>
    rw [Json.string?_eq_some_iff.mp hkind]
    rfl
  · next hfunction _ =>
    have hother : ¬(declaredKind entry).isText ["function"] := by
      intro htext
      obtain ⟨kind, hmem, hkind⟩ :=
        (@Json.isText_map_ofString_iff _ ["function"]).mp htext
      obtain rfl := List.mem_singleton.mp hmem
      exact hfunction hkind
    rw [Bool.eq_false_iff.mpr hother]
    rfl

namespace Declaration

variable {filePath : Text} {entry : Json} {entries : List Json} {d : Declaration}
  {ds : List Declaration}

def method? : Declaration → Option Method
  | function f => some f.toMethod
  | constantFunction m => some m
  | accessor a => some a.toMethod
  | event _ | skipped _ => none

theorem isSingleValue_of_read {members : List (Text × Json)} {a : Accessor}
    (h : read filePath (.obj members) = .ok (.accessor a)) :
    isSingleValue (.obj members) = .ok true := by
  obtain ⟨cls, hcls, hread⟩ := bind_eq_ok_iff.mp h
  refine (yields_classify members).of_ok hcls ?_
  cases cls with
  | accessor => rfl
  | function | constantFunction | event =>
    obtain ⟨member, -, hmember⟩ := map_eq_ok_iff.mp hread
    cases hmember
  | ignored kind => cases hread
  | unsupported =>
    obtain ⟨kind, -, hread⟩ := bind_eq_ok_iff.mp hread
    obtain ⟨name, -, hread⟩ := bind_eq_ok_iff.mp hread
    cases hread

/-- **One method for each way.** An entry that declares a function is read to the method that it
would be read to on the way of any other. -/
theorem read_method (h : read filePath entry = .ok d) :
    (declaresFunction entry = true ∧ ∃ m, d.method? = some m ∧ Method.read entry = .ok m) ∨
      (declaresFunction entry = false ∧ d.method? = none) := by
  rw [declaresFunction_eq]
  cases declares_of_read h with
  | function group read =>
    exact Or.inl ⟨by rw [group]; decide, _, rfl, Method.read_of_read_function read⟩
  | constantFunction group read => exact Or.inl ⟨by rw [group]; decide, _, rfl, read⟩
  | accessor group read =>
    refine Or.inl ⟨by rw [group]; decide, _, rfl, ?_⟩
    cases entry with
    | obj members => exact Method.read_of_isSingleValue (isSingleValue_of_read h) read
    | _ => cases h
  | event group | skipped group => exact Or.inr ⟨by rw [group]; decide, rfl⟩

theorem exists_method (h : read filePath entry = .ok d)
    (hdeclares : declaresFunction entry = true) :
    ∃ m, d.method? = some m ∧ Method.read entry = .ok m := by
  rcases read_method h with ⟨-, hmethod⟩ | ⟨hother, -⟩
  · exact hmethod
  · rw [hdeclares] at hother
    cases hother

/-- The group of the entries that declare something of this kind. -/
def group : Declaration → EntryGroup
  | function _ => .function
  | constantFunction _ => .constantFunction
  | accessor _ => .accessor
  | event _ => .event
  | skipped _ => .skipped

theorem group_eq (h : Declares filePath entry d) : entryGroup entry = d.group := by
  cases h <;> assumption

/-- The declared method, if it is one and of the group. -/
def methodIn (group : EntryGroup) (d : Declaration) : Option Method :=
  if d.group = group then d.method? else none

theorem methods_ofDeclarations (name : Json) (ds : List Declaration) :
    (Contract.ofDeclarations name ds).methods = ds.filterMap (methodIn .constantFunction) ++
      ds.filterMap (methodIn .function) ++ ds.filterMap (methodIn .accessor) := by
  have hconstant : constantFunction? = methodIn .constantFunction := by
    funext d
    cases d <;> rfl
  have hfunction : (fun d ↦ (function? d).map Function.toMethod) = methodIn .function := by
    funext d
    cases d <;> rfl
  have haccessor : (fun d ↦ (accessor? d).map Accessor.toMethod) = methodIn .accessor := by
    funext d
    cases d <;> rfl
  rw [Contract.methods, Contract.ofDeclarations, List.map_filterMap, List.map_filterMap,
    hconstant, hfunction, haccessor]

theorem perm_methods (name : Json) (ds : List Declaration) :
    (Contract.ofDeclarations name ds).methods.Perm (ds.filterMap method?) := by
  induction ds with
  | nil => exact .nil
  | cons d ds ih =>
    cases d with
    | constantFunction m => exact ih.cons m
    | function f =>
      have hmoved : (Contract.ofDeclarations name (function f :: ds)).methods.Perm
          (f.toMethod :: (Contract.ofDeclarations name ds).methods) :=
        List.perm_middle.append_right _
      exact hmoved.trans (ih.cons f.toMethod)
    | accessor a =>
      have hmoved : (Contract.ofDeclarations name (accessor a :: ds)).methods.Perm
          (a.toMethod :: (Contract.ofDeclarations name ds).methods) := List.perm_middle
      exact hmoved.trans (ih.cons a.toMethod)
    | event | skipped => exact ih

/-- The signature lines of all entries that declare functions are the rows of what they declare. -/
theorem mapM_signatureLine (h : readAll filePath entries = (ds, none)) :
    (entries.filter declaresFunction).mapM signatureLine
      = .ok ((ds.filterMap method?).map methodRow) := by
  rw [List.map_filterMap]
  refine mapM_filter_of_read (fun entry d hread ↦ ?_) h
  rcases read_method hread with ⟨hdeclares, m, hm, hmethod⟩ | ⟨hdeclares, hnone⟩
  · exact Or.inl ⟨hdeclares, methodRow m, by rw [hm, Option.map_some],
      signatureLine_of_read hmethod⟩
  · exact Or.inr ⟨hdeclares, by rw [hnone, Option.map_none]⟩

theorem mapM_signatureLine_group {g : EntryGroup} (hg : g ≠ .event ∧ g ≠ .skipped)
    (h : readAll filePath entries = (ds, none)) :
    (entries.filter fun entry ↦ entryGroup entry = g).mapM signatureLine
      = .ok ((ds.filterMap (methodIn g)).map methodRow) := by
  rw [List.map_filterMap]
  refine mapM_filter_of_read (fun entry d hread ↦ ?_) h
  have hgroup : entryGroup entry = d.group := group_eq (declares_of_read hread)
  by_cases hd : d.group = g
  · have hdeclares : declaresFunction entry = true := by
      rw [declaresFunction_eq, hgroup, hd]
      exact decide_eq_true hg
    obtain ⟨m, hm, hmethod⟩ := exists_method hread hdeclares
    refine Or.inl ⟨decide_eq_true (hgroup.trans hd), methodRow m, ?_,
      signatureLine_of_read hmethod⟩
    rw [methodIn, if_pos hd, hm, Option.map_some]
  · refine Or.inr ⟨decide_eq_false (hgroup ▸ hd), ?_⟩
    rw [methodIn, if_neg hd, Option.map_none]

theorem exists_read_of_mem (h : readAll filePath entries = (ds, none)) :
    ∀ entry ∈ entries, ∃ d, read filePath entry = .ok d := by
  induction entries generalizing ds with
  | nil => exact fun entry hentry ↦ absurd hentry List.not_mem_nil
  | cons entry entries ih =>
    obtain ⟨d, rest, hread, hrest, -⟩ := readAll_cons_eq_none h
    exact List.forall_mem_cons.mpr ⟨⟨d, hread⟩, ih hrest⟩

end Declaration

/-! ## Blocks of signatures -/

/-- A block of lines has the signature lines of a description, sorted by what the entries are kept
as. -/
structure IsSignatureBlock (entries : List Json) (block : List Text) : Prop where
  /-- Every entry that declares a function can be read as one. -/
  readable : ∀ entry ∈ entries, declaresFunction entry = true → ∃ f, Function.read entry = .ok f
  /-- Constant functions come first, then functions, then accessors, all of them in order. -/
  sorted : (entries.filter (fun entry ↦ entryGroup entry = .constantFunction) ++
    entries.filter (fun entry ↦ entryGroup entry = .function) ++
    entries.filter (fun entry ↦ entryGroup entry = .accessor)).mapM signatureLine = .ok block
  /-- Every entry that declares a function has its line in the block once. -/
  perm : ∃ lines, (entries.filter declaresFunction).mapM signatureLine = .ok lines ∧
    block.Perm lines

def rowsBeforeMethods (c : Contract) : List Text :=
  headRows ++ importRows ++ preambleRows ++
  (["export class " ++ c.name.display ++ " extends Contract \x7b",
    "  constructor(jsonInterface: any[], address?: string, options?: ContractOptions);",
    "  methods: \x7b"] : List Text)

def rowsAfterMethods (c : Contract) : List Text :=
  (["  \x7d;",
    "  events: \x7b"] : List Text) ++
  eventRows c ++
  (["  \x7d;",
    "  clone(): " ++ c.name.display ++ ";",
    "\x7d",
    ""] : List Text)

theorem documentRows_eq (c : Contract) :
    documentRows c = rowsBeforeMethods c ++ methodRows c ++ rowsAfterMethods c := by
  simp only [documentRows, classRows, rowsBeforeMethods, rowsAfterMethods, List.append_assoc,
    List.cons_append, List.nil_append]

theorem isSignatureBlock_ofDeclarations {filePath : Text} {entries : List Json}
    {ds : List Declaration} (h : Declaration.readAll filePath entries = (ds, none)) (name : Json) :
    IsSignatureBlock entries ((Contract.ofDeclarations name ds).methods.map methodRow) := by
  constructor
  · intro entry hentry hdeclares
    obtain ⟨d, hread⟩ := Declaration.exists_read_of_mem h entry hentry
    obtain ⟨m, -, hmethod⟩ := Declaration.exists_method hread hdeclares
    obtain ⟨f, hf, -⟩ := Function.exists_read hmethod
    exact ⟨f, hf⟩
  · rw [List.mapM_append, List.mapM_append,
      Declaration.mapM_signatureLine_group (by decide) h,
      Declaration.mapM_signatureLine_group (by decide) h,
      Declaration.mapM_signatureLine_group (by decide) h,
      Declaration.methods_ofDeclarations, List.map_append, List.map_append]
    rfl
  · exact ⟨_, Declaration.mapM_signatureLine h, (Declaration.perm_methods name ds).map methodRow⟩

theorem Contract.Renders.methods {c : Contract} (h : c.Renders) : ∀ m ∈ c.methods, m.Renders := by
  have haccessors : ∀ m ∈ c.accessors.map Accessor.toMethod, m.Renders := by
    intro m hm
    obtain ⟨a, ha, rfl⟩ := List.mem_map.mp hm
    exact ⟨fun p hp ↦ absurd hp List.not_mem_nil, List.forall_mem_singleton.mpr (h.accessors a ha)⟩
  have hfunctions : ∀ m ∈ c.functions.map Function.toMethod, m.Renders := by
    intro m hm
    obtain ⟨f, hf, rfl⟩ := List.mem_map.mp hm
    exact h.functions f hf
  rw [Contract.methods]
  exact List.forall_mem_append.mpr
    ⟨List.forall_mem_append.mpr ⟨h.constantFunctions, hfunctions⟩, haccessors⟩

theorem writes_methods {c : Contract} (h : c.Renders) :
    Writes (methodLines c) { level := 2 } (c.methods.map methodRow) := by
  rw [methodLines_eq]
  exact writes_mapM fun m hm ↦ writes_methodLine (h.methods m hm)

/-- **No signature is lost.** Every entry of an accepted description that declares a function can be
read as one, and the methods of the class are the lines it has as one. -/
theorem signatures_of_readEntries {name : Json} {filePath : Text} {entries : List Json}
    {c : Contract} (h : (Contract.readEntries name filePath entries).result = .ok c) :
    ∃ block, IsSignatureBlock entries block ∧
      (methodLines c).run { level := 2 } = .ok block { level := 2 } ∧
      typings c = .ok (joinLines (rowsBeforeMethods c ++ block ++ rowsAfterMethods c)) := by
  have hrenders : c.Renders := (Contract.yields_readEntries name filePath entries).of_ok h
  have hblock : methodRows c = c.methods.map methodRow :=
    (EStateM.Result.ok.inj ((writes_methodLines hrenders).symm.trans (writes_methods hrenders))).1
  obtain ⟨ds, hread, rfl⟩ := readEntries_eq_ok h
  refine ⟨_, isSignatureBlock_ofDeclarations hread name, writes_methods hrenders, ?_⟩
  rw [typings, writes_documentText hrenders, documentRows_eq, hblock]

/-- A description that declares an accessor, a function and a constant function, in the order
opposite to that of a class. The inputs of the accessor are no list, but say nothing. -/
private def registerEntries : List Json :=
  [.obj [("name", .str "keeper"), ("constant", .bool true), ("inputs", .str ""),
      ("outputs", .arr [.obj [("name", .str "who"), ("type", .str "address")]])],
    .obj [("type", .str "receive")],
    .obj [("type", .str "function"), ("name", .str "enter"), ("payable", .bool true),
      ("inputs", .arr [.obj [("type", .str "bool")]])],
    .obj [("name", .str "size"), ("stateMutability", .str "view")]]

private def register : Contract where
  name := .str "Register"
  functions := [⟨⟨.str "enter", [⟨.null, .bool⟩], []⟩, true⟩]
  constantFunctions := [⟨.str "size", [], []⟩]
  accessors := [⟨.str "keeper", ⟨.str "who", .address⟩⟩]
  events := []

theorem signatures_of_readEntries_register :
    (Contract.readEntries (.str "Register") "register.json" registerEntries).result
      = .ok register ∧
    IsSignatureBlock registerEntries
      ["    size(): TransactionObject<void>;",
        "    enter(arg0: boolean): TransactionObject<void>;",
        "    keeper(): TransactionObject<string>;"] := by
  have hread : (Contract.readEntries (.str "Register") "register.json" registerEntries).result
      = .ok register := by
    cbv
  obtain ⟨block, hblock, hrun, -⟩ := signatures_of_readEntries hread
  have hlines : (methodLines register).run { level := 2 }
      = .ok ["    size(): TransactionObject<void>;",
          "    enter(arg0: boolean): TransactionObject<void>;",
          "    keeper(): TransactionObject<string>;"] { level := 2 } := by
    cbv
  rw [hlines] at hrun
  rw [(EStateM.Result.ok.inj hrun).1]
  exact ⟨hread, hblock⟩

end AbiTypings
