import AbiTypings.Proofs.Contract.ClassName
import AbiTypings.Proofs.Contract.View
import AbiTypings.Proofs.Text.Records
import AbiTypings.Session.Generation

/-!
# The names a document declares

A document has names of its own: those it imports, the two types every class relies on, and the
subscription to all events. The name of the class comes from a file and the names of events from
their entries, and nothing compares the two sides. The class is always declared after the names the
document has of its own, and the subscription to all events always comes after the declared ones, so
a name from outside that is one of them is there twice. `declaredNames_of_readEntries` says which
names those are.

## Reading names

Names are read off a document, not off the contract it was written from. At the margin they stand
behind the words that import and declare. The members of the block of events end at the semicolons
where no bracket is open (`Text.pieces?`), and each starts with its name.

The names of events go in as they are. One that is no identifier can have signs that end a member or
hide what follows, and then the block need not have a member for each event. So its members are
named for identifiers only; what its rows are is said for all names.
-/

namespace AbiTypings

/-! ## Names at the margin of a document -/

/-- Whether a character is part of a name. Beyond ASCII all are. -/
def isNameChar : CodePoint → Bool
  | .char c => Text.isWordOrBeyond c || c == '$'
  | .half _ => true

/-- The names that a row at the margin imports or declares. -/
def outermostNames (row : Text) : List Text :=
  match (Text.toList "import \x7b ").isPrefixOf? row.toList with
  | some names =>
    ((names.takeWhile (· ≠ .char '\x7d')).splitOn (.char ',')).map fun name ↦
      ⟨name.filter isNameChar⟩
  | none =>
    ((["export type ", "interface ", "export class "] : List Text).findSome? fun keyword ↦
      keyword.toList.isPrefixOf? row.toList).toList.map fun rest ↦ ⟨rest.takeWhile isNameChar⟩

/-- The rows before the members of the class. -/
def topRows (rows : List Text) : List Text := rows.takeWhile (· ≠ "  methods: \x7b")

/-- The rows inside the block of events. -/
def eventsBlock (rows : List Text) : List Text :=
  ((rows.dropWhile (· ≠ ("  events: \x7b" : Text))).drop 1).takeWhile (· ≠ "  \x7d;")

/-- The names that a document imports or declares before its class. -/
def templateNames : List Text :=
  importedNames.flatMap Prod.snd ++ (["Callback", "TransactionObject"] : List Text)

/-! ## Names of members -/

abbrev allEvents : Text := "allEvents"

abbrev semicolon : CodePoint := .char ';'

/-- A letter, a digit, the underscore or the dollar sign of ASCII. -/
def isIdentifierChar : CodePoint → Bool
  | .char c => c.isAlphanum || c == '_' || c == '$'
  | .half _ => false

/-- Whether a text is an identifier, as contracts name their events: a digit is not the first, and
`new` is a word of the language. -/
def isIdentifier (name : Text) : Bool :=
  match name.toList with
  | .char first :: _ => name.toList.all isIdentifierChar && !first.isDigit && name != "new"
  | _ => false

/-- The name in front of a member, behind blanks and line feeds. -/
def memberName? (member : List CodePoint) : Option Text :=
  match (member.dropWhile fun c ↦ c == Text.space || c == Text.lineFeed).takeWhile
    isIdentifierChar with
  | [] => none
  | name => some ⟨name⟩

/-- The names of the members of a block. -/
def memberNames? (block : Text) : Option (List Text) :=
  (Text.pieces? semicolon [] block.toList).map (List.filterMap memberName?)

/-- The names of the events among some entries. -/
def eventNames (entries : List Json) : List Text :=
  (entries.filter fun entry ↦ entryGroup entry = .event).map fun entry ↦
    (entry.memberOr "name" .null).display

/-- The rows that subscribe to some events by their names, and then to all events. -/
def subscriptionsTo (names : List Text) : List Text :=
  names.flatMap (fun name ↦ subscriptionRows (name ++ "(") "): EventEmitter;") ++
    subscriptionRows "allEvents: (" ") => EventEmitter;"

theorem isNameChar_of_className {raw name : String} (h : className raw = .ok name) :
    ∀ c ∈ (name : Text).toList, isNameChar c = true := by
  rw [Text.toList_ofString, List.forall_mem_map]
  intro c hc
  rw [isNameChar, isWordOrBeyond_of_mem_className h hc, Bool.true_or]

/-! ## The class among the names at the margin -/

theorem outermostNames_template :
    (headRows ++ importRows ++ preambleRows).flatMap outermostNames = templateNames := by
  decide +kernel

theorem outermostNames_class {name : Text} (h : ∀ c ∈ name.toList, isNameChar c = true) :
    outermostNames ("export class " ++ name ++ " extends Contract \x7b") = [name] := by
  have hrest : ("export class " ++ name ++ " extends Contract \x7b").toList
      = Text.toList "export class " ++
        (name.toList ++ Text.space :: Text.toList "extends Contract \x7b") := by
    rw [Text.toList_append, Text.toList_append, List.append_assoc]
    rfl
  have htake : (name.toList ++ Text.space :: Text.toList "extends Contract \x7b").takeWhile
      isNameChar = name.toList := by
    rw [List.takeWhile_append_of_pos h, List.takeWhile_cons_of_neg (by decide), List.append_nil]
  calc outermostNames ("export class " ++ name ++ " extends Contract \x7b")
      = [⟨(name.toList ++ Text.space :: Text.toList "extends Contract \x7b").takeWhile
          isNameChar⟩] := by
        rw [outermostNames, hrest]
        rfl
    _ = [name] := by rw [htake]

/-! ## Parts of a document -/

private def rowsBeforeMembers (c : Contract) : List Text :=
  headRows ++ importRows ++ preambleRows ++
    (["export class " ++ c.name.display ++ " extends Contract \x7b",
      "  constructor(jsonInterface: any[], address?: string, options?: ContractOptions);"] :
      List Text)

theorem rowsBeforeMethods_eq (c : Contract) :
    rowsBeforeMethods c = rowsBeforeMembers c ++ (["  methods: \x7b"] : List Text) := by
  simp only [rowsBeforeMethods, rowsBeforeMembers, List.append_assoc, List.cons_append,
    List.nil_append]

theorem rowsAfterMethods_eq (c : Contract) : rowsAfterMethods c
    = ("  \x7d;" : Text) :: ("  events: \x7b" : Text) ::
      (eventRows c ++ ("  \x7d;" : Text) ::
        (["  clone(): " ++ c.name.display ++ ";", "\x7d", ""] : List Text)) := by
  simp only [rowsAfterMethods, List.cons_append, List.nil_append]

theorem classHead_ne {name target : Text} (h : target.toList.head? = some Text.space) :
    "export class " ++ name ++ " extends Contract \x7b" ≠ target := by
  rintro rfl
  rw [Text.toList_append, Text.toList_append, List.append_assoc] at h
  have hmargin : some (CodePoint.char 'e') = some Text.space := h
  exact absurd hmargin (by decide)

theorem ne_of_mem_rowsBeforeMembers {c : Contract} {row : Text}
    (h : row ∈ rowsBeforeMembers c) : row ≠ "  methods: \x7b" ∧ row ≠ "  events: \x7b" := by
  have hfixed : ∀ row ∈ headRows ++ importRows ++ preambleRows,
      row ≠ "  methods: \x7b" ∧ row ≠ "  events: \x7b" := by
    decide +kernel
  rcases List.mem_append.mp h with h | h
  · exact hfixed row h
  · simp only [List.mem_cons, List.not_mem_nil, or_false] at h
    rcases h with rfl | rfl
    · exact ⟨classHead_ne (by rfl), classHead_ne (by rfl)⟩
    · decide

theorem indented_ne {text target : Text} (h : target.toList[2]? ≠ some Text.space) :
    "    " ++ text ≠ target := by
  rintro rfl
  rw [Text.toList_append] at h
  exact h rfl

theorem indented_of_mem_methodRows {c : Contract} {row : Text} (h : row ∈ methodRows c) :
    ∃ text : Text, row = "    " ++ text := by
  simp only [methodRows, List.mem_append, List.mem_map] at h
  rcases h with (⟨m, -, rfl⟩ | ⟨f, -, rfl⟩) | ⟨a, -, rfl⟩
  · exact ⟨_, rfl⟩
  · exact ⟨_, rfl⟩
  · exact ⟨_, rfl⟩

theorem indented_of_mem_subscriptionRows {opening closing row : Text}
    (h : row ∈ subscriptionRows opening closing) : ∃ text : Text, row = "    " ++ text := by
  have hfixed : subscriptionRows opening closing = ([opening, "  options?: \x7b",
      "    filter?: object;", "    fromBlock?: Block;", "    topics?: (null | string)[];",
      "  \x7d,", "  cb?: Callback<EventLog>", closing] : List Text).map
        fun text ↦ ("    " ++ text : Text) :=
    rfl
  rw [hfixed] at h
  obtain ⟨text, -, rfl⟩ := List.mem_map.mp h
  exact ⟨text, rfl⟩

theorem indented_of_mem_eventRows {c : Contract} {row : Text} (h : row ∈ eventRows c) :
    ∃ text : Text, row = "    " ++ text := by
  rw [eventRows, List.mem_append, List.mem_flatMap] at h
  rcases h with ⟨e, -, h⟩ | h
  · exact indented_of_mem_subscriptionRows h
  · exact indented_of_mem_subscriptionRows h

theorem topRows_documentRows (c : Contract) : topRows (documentRows c) = rowsBeforeMembers c := by
  have hbefore : ∀ row ∈ rowsBeforeMembers c, decide (row ≠ "  methods: \x7b") = true :=
    fun row hrow ↦ decide_eq_true (ne_of_mem_rowsBeforeMembers hrow).1
  rw [topRows, documentRows_eq, rowsBeforeMethods_eq, List.append_assoc, List.append_assoc,
    List.takeWhile_append_of_pos hbefore, List.singleton_append,
    List.takeWhile_cons_of_neg (by simp), List.append_nil]

theorem eventsBlock_documentRows (c : Contract) : eventsBlock (documentRows c) = eventRows c := by
  have hbefore : ∀ row ∈ rowsBeforeMethods c ++ methodRows c,
      decide (row ≠ "  events: \x7b") = true := by
    intro row hrow
    rw [rowsBeforeMethods_eq, List.mem_append, List.mem_append, List.mem_singleton] at hrow
    rcases hrow with (hrow | rfl) | hrow
    · exact decide_eq_true (ne_of_mem_rowsBeforeMembers hrow).2
    · rfl
    · obtain ⟨text, rfl⟩ := indented_of_mem_methodRows hrow
      exact decide_eq_true (indented_ne (by decide))
  have hinside : ∀ row ∈ eventRows c, decide (row ≠ "  \x7d;") = true := by
    intro row hrow
    obtain ⟨text, rfl⟩ := indented_of_mem_eventRows hrow
    exact decide_eq_true (indented_ne (by decide))
  rw [eventsBlock, documentRows_eq, List.dropWhile_append_of_pos hbefore, rowsAfterMethods_eq,
    List.dropWhile_cons_of_pos (by rfl), List.dropWhile_cons_of_neg (by simp),
    List.drop_one, List.tail_cons, List.takeWhile_append_of_pos hinside,
    List.takeWhile_cons_of_neg (by simp), List.append_nil]

/-! ## The members of the block of events -/

theorem isPlain_of_isIdentifierChar {c : CodePoint} (h : isIdentifierChar c = true) :
    Text.isPlain c = true ∧ c ≠ semicolon := by
  have hsigns : ([';', '(', ')', '[', ']', '\x7b', '\x7d', '\n'].all
      fun s ↦ !isIdentifierChar (.char s)) = true := by
    decide
  obtain ⟨hsemicolon, hplain⟩ := List.forall_mem_cons.mp (Text.ne_of_all_not hsigns h)
  exact ⟨Text.isPlain_of_ne hplain, hsemicolon⟩

theorem isIdentifierChar_of_isIdentifier {name : Text} (h : isIdentifier name = true) :
    name.toList ≠ [] ∧ ∀ c ∈ name.toList, isIdentifierChar c = true := by
  unfold isIdentifier at h
  split at h
  · next first rest hname =>
    rw [Bool.and_eq_true, Bool.and_eq_true] at h
    exact ⟨hname ▸ List.cons_ne_nil _ _, List.all_eq_true.mp h.1.1⟩
  · cases h

/-- What stands in the subscription to an event between its name and the semicolon. -/
def subscriptionBody : Text := "(\n" ++ joinLines (subscriptionRows "" "): EventEmitter").tail

theorem joinLines_subscriptionRows (name : Text) :
    joinLines (subscriptionRows (name ++ "(") "): EventEmitter;")
      = "    " ++ (name ++ (subscriptionBody ++ ";")) := by
  have hrows : subscriptionRows (name ++ "(") "): EventEmitter;"
      = ("    " ++ (name ++ "(")) :: (subscriptionRows "" "): EventEmitter;").tail := rfl
  have hbody : ("(" ++ ("\n" ++ joinLines (subscriptionRows "" "): EventEmitter;").tail) : Text)
      = subscriptionBody ++ ";" := by
    decide +kernel
  have hne : (subscriptionRows "" "): EventEmitter;").tail ≠ [] := List.cons_ne_nil _ _
  rw [hrows, joinLines, Text.intercalate_cons_of_ne_nil hne, ← joinLines, Text.append_assoc,
    Text.append_assoc, Text.append_assoc, hbody]

theorem memberName?_subscription {name : Text} (h : isIdentifier name = true) :
    memberName? (Text.toList "    " ++ (name.toList ++ subscriptionBody.toList)) = some name := by
  obtain ⟨hne, hchars⟩ := isIdentifierChar_of_isIdentifier h
  have hbody : subscriptionBody.toList = .char '(' :: subscriptionBody.toList.tail := rfl
  have hname : (name.toList ++ subscriptionBody.toList).takeWhile isIdentifierChar
      = name.toList := by
    rw [List.takeWhile_append_of_pos hchars, hbody, List.takeWhile_cons_of_neg (by decide),
      List.append_nil]
  have hblanks : (Text.toList "    " ++ (name.toList ++ subscriptionBody.toList)).dropWhile
      (fun c ↦ c == Text.space || c == Text.lineFeed) = name.toList ++ subscriptionBody.toList := by
    obtain ⟨first, rest, hcons⟩ := List.exists_cons_of_ne_nil hne
    have hfirst := hchars first (by rw [hcons]; exact List.mem_cons_self)
    have hsigns : ([' ', '\n'].all fun s ↦ !isIdentifierChar (.char s)) = true := by decide
    have hstops := Text.ne_of_all_not hsigns hfirst
    rw [List.dropWhile_append_of_pos (by decide), hcons, List.cons_append,
      List.dropWhile_cons_of_neg (by simpa using hstops)]
  rw [memberName?, hblanks, hname]
  split
  · next hnil => exact absurd hnil hne
  · rfl

theorem memberNames?_lineFeed (block : List CodePoint) :
    memberNames? ⟨Text.lineFeed :: block⟩ = memberNames? ⟨block⟩ := by
  have hfeed : Text.afterPiece semicolon [] [Text.lineFeed] = some [] := rfl
  have hpieces := Text.pieces?_append hfeed block
  rw [List.singleton_append] at hpieces
  rw [memberNames?, hpieces, Option.map_map, memberNames?]
  congr 1
  funext pieces
  cases pieces <;> rfl

theorem memberNames?_subscription {name : Text} (h : isIdentifier name = true) {rows : List Text}
    (hne : rows ≠ []) :
    memberNames? (joinLines (subscriptionRows (name ++ "(") "): EventEmitter;" ++ rows))
      = (memberNames? (joinLines rows)).map (name :: ·) := by
  have hplain : ∀ c ∈ name.toList, Text.isPlain c = true ∧ c ≠ semicolon := fun c hc ↦
    isPlain_of_isIdentifierChar ((isIdentifierChar_of_isIdentifier h).2 c hc)
  have hblanks : ∀ c ∈ Text.toList "    ", Text.isPlain c = true ∧ c ≠ semicolon := by decide
  have hpiece : Text.IsPiece semicolon
      (Text.toList "    " ++ (name.toList ++ subscriptionBody.toList)) := by
    rw [Text.isPiece_append_iff hblanks, Text.isPiece_append_iff hplain]
    decide +kernel
  have hrows : subscriptionRows (name ++ "(") "): EventEmitter;" ≠ [] := List.cons_ne_nil _ _
  have hblock : (joinLines (subscriptionRows (name ++ "(") "): EventEmitter;" ++ rows)).toList
      = (Text.toList "    " ++ (name.toList ++ subscriptionBody.toList)) ++
        semicolon :: Text.lineFeed :: (joinLines rows).toList := by
    rw [joinLines, Text.intercalate_append_of_ne_nil hrows hne, ← joinLines,
      joinLines_subscriptionRows, ← joinLines]
    simp only [Text.toList_append, List.append_assoc]
    rfl
  rw [memberNames?, hblock, Text.pieces?_append_cons hpiece, Option.map_map,
    ← memberNames?_lineFeed, memberNames?, Option.map_map]
  congr 1
  funext members
  rw [Function.comp_apply, Function.comp_apply, List.filterMap_cons, memberName?_subscription h]

theorem memberNames?_allEvents :
    memberNames? (joinLines (subscriptionRows "allEvents: (" ") => EventEmitter;"))
      = some [allEvents] := by
  decide +kernel

/-- A block of subscriptions names its events and then the subscription to all of them. -/
theorem memberNames?_subscriptionsTo {names : List Text}
    (h : ∀ name ∈ names, isIdentifier name = true) :
    memberNames? (joinLines (subscriptionsTo names))
      = some (names ++ [allEvents]) := by
  induction names with
  | nil => exact memberNames?_allEvents
  | cons name names ih =>
    obtain ⟨hname, hnames⟩ := List.forall_mem_cons.mp h
    have hne : subscriptionsTo names ≠ [] :=
      List.append_ne_nil_of_right_ne_nil _ (List.cons_ne_nil _ _)
    rw [subscriptionsTo, List.flatMap_cons, List.append_assoc, ← subscriptionsTo,
      memberNames?_subscription hname hne, ih hnames]
    rfl

/-! ## Names of accepted descriptions -/

section Descriptions

variable {stem name : String} {filePath : Text} {entries : List Json} {c : Contract}

theorem isCapitalized_of_mem_templateNames {own : String} (h : (own : Text) ∈ templateNames) :
    Text.isCapitalized own.toList = true := by
  have hnames : templateNames = ["Contract", "ContractOptions", "Transaction", "EventLog",
      "PromiEvent", "Block", "EventEmitter", "Callback", "TransactionObject"].map Text.ofString :=
    rfl
  rw [hnames] at h
  obtain ⟨s, hs, heq⟩ := List.mem_map.mp h
  rw [← Text.ofString_inj.mp heq]
  clear heq h
  revert s
  decide

theorem mem_templateNames_iff (h : className stem = .ok name) : (name : Text) ∈ templateNames ↔
    ∃ own : String, (own : Text) ∈ templateNames ∧ classNameChars stem.toList ∈ casings own := by
  constructor
  · intro hmem
    exact ⟨name, hmem, (className_eq_iff h (isCapitalized_of_mem_templateNames hmem)).mp rfl⟩
  · rintro ⟨own, hown, hcasing⟩
    rwa [(className_eq_iff h (isCapitalized_of_mem_templateNames hown)).mpr hcasing]

theorem outermostNames_topRows (hname : className stem = .ok name) (hc : c.name = .str name) :
    (topRows (documentRows c)).flatMap outermostNames = templateNames ++ [(name : Text)] := by
  have hclass := outermostNames_class (isNameChar_of_className hname)
  have hconstructor : outermostNames
      "  constructor(jsonInterface: any[], address?: string, options?: ContractOptions);" = [] := by
    decide +kernel
  rw [topRows_documentRows, rowsBeforeMembers, List.flatMap_append, outermostNames_template, hc,
    List.flatMap_cons, List.flatMap_singleton, Json.display, hclass, hconstructor, List.append_nil]

/-- The block of events subscribes to the event of every entry, whatever its name is. -/
theorem eventsBlock_of_readEntries
    (hread : (Contract.readEntries (.str name) filePath entries).result = .ok c) :
    eventsBlock (documentRows c) = subscriptionsTo (eventNames entries) := by
  obtain ⟨ds, hds, rfl⟩ := readEntries_eq_ok hread
  have hevents := (isPartition_ofDeclarations hds (.str name)).events
  have hnames : (Contract.ofDeclarations (.str name) ds).events.map (fun e ↦ e.name.display)
      = eventNames entries :=
    map_eq_map_of_mapM (fun _ _ h ↦ by rw [Event.of_read h]) hevents
  rw [eventsBlock_documentRows, eventRows, ← hnames, subscriptionsTo, List.flatMap_map]

/-- **The names in a document.** The typings of an accepted description declare, before the members
of the class, the names a document has anyway and then the class. The class repeats one of them
exactly if its stem leaves that name, with its first letter in either case. The block of events
subscribes to the events by the names in their entries, as they are, and then to all of them. So if
these names are identifiers, they are the names of its members, and `allEvents` is declared once
exactly if no event is called that. -/
theorem declaredNames_of_readEntries (hname : className stem = .ok name)
    (hread : (Contract.readEntries (.str name) filePath entries).result = .ok c) :
    typings c = .ok (joinLines (documentRows c)) ∧
    (∀ text, descriptionEntries text = .ok entries →
      (typingsOfText (.str name) filePath text).result = .ok (joinLines (documentRows c))) ∧
    (topRows (documentRows c)).flatMap outermostNames = templateNames ++ [(name : Text)] ∧
    ((name : Text) ∈ templateNames ↔
      ∃ own : String, (own : Text) ∈ templateNames ∧ classNameChars stem.toList ∈ casings own) ∧
    eventsBlock (documentRows c) = subscriptionsTo (eventNames entries) ∧
    ((∀ event ∈ eventNames entries, isIdentifier event = true) →
      ∃ members, memberNames? (joinLines (eventsBlock (documentRows c))) = some members ∧
        members = eventNames entries ++ [allEvents] ∧
        members.count allEvents = 1 + (eventNames entries).count allEvents ∧
        (members.count allEvents = 1 ↔ allEvents ∉ eventNames entries)) := by
  have hrenders := (Contract.yields_readEntries (.str name) filePath entries).of_ok hread
  have htypings : typings c = .ok (joinLines (documentRows c)) := by
    rw [typings, writes_documentText hrenders]
  have hblock := eventsBlock_of_readEntries hread
  refine ⟨htypings, fun text htext ↦ ?_, outermostNames_topRows hname ?_,
    mem_templateNames_iff hname, hblock, fun hidentifiers ↦ ?_⟩
  · rw [typingsOfText, htext]
    exact (congrArg (· >>= typings) hread).trans htypings
  · obtain ⟨ds, -, rfl⟩ := readEntries_eq_ok hread
    rfl
  · have hcount : (eventNames entries ++ [allEvents]).count allEvents
        = 1 + (eventNames entries).count allEvents := by
      rw [List.count_append, List.count_singleton_self, Nat.add_comm]
    refine ⟨_, ?_, rfl, hcount, ?_⟩
    · rw [hblock, memberNames?_subscriptionsTo hidentifiers]
    · rw [hcount, Nat.add_eq_left, List.count_eq_zero]

end Descriptions

/-- A description of a single event. -/
private def eventEntries (name : Text) : List Json :=
  [.obj [("type", .str "event"), ("name", .str name)]]

private def eventContract (name event : Text) : Contract where
  name := .str name
  functions := []
  constantFunctions := []
  accessors := []
  events := [⟨.str event, [], false⟩]

theorem declaredNames_of_readEntries_token :
    className "token" = .ok "Token" ∧
    ∃ c, (Contract.readEntries (.str "Token") "" (eventEntries "Minted")).result = .ok c ∧
      (topRows (documentRows c)).flatMap outermostNames
        = templateNames ++ (["Token"] : List Text) ∧
      ("Token" : Text) ∉ templateNames ∧
      memberNames? (joinLines (eventsBlock (documentRows c)))
        = some (["Minted", allEvents] : List Text) := by
  have hname : className "token" = .ok "Token" := by rfl
  have hread : (Contract.readEntries (.str "Token") "" (eventEntries "Minted")).result
      = .ok (eventContract "Token" "Minted") := by
    cbv
  obtain ⟨-, -, houtermost, -, -, hmembers⟩ := declaredNames_of_readEntries hname hread
  obtain ⟨members, hread', rfl, -, -⟩ := hmembers (by decide)
  refine ⟨hname, _, hread, houtermost, by decide, hread'⟩

/-- Two names from outside that a document has anyway: the class is called like what it extends, and
the event like the subscription to all events. -/
theorem declaredNames_contract :
    className "contract" = .ok "Contract" ∧
    ∃ c, (Contract.readEntries (.str "Contract") "" (eventEntries "allEvents")).result = .ok c ∧
      typings c = .ok (joinLines (documentRows c)) ∧
      (topRows (documentRows c)).flatMap outermostNames
        = (["Contract", "ContractOptions", "Transaction", "EventLog", "PromiEvent", "Block",
            "EventEmitter", "Callback", "TransactionObject", "Contract"] : List Text) ∧
      memberNames? (joinLines (eventsBlock (documentRows c)))
        = some [allEvents, allEvents] := by
  have hname : className "contract" = .ok "Contract" := by rfl
  have hread : (Contract.readEntries (.str "Contract") "" (eventEntries "allEvents")).result
      = .ok (eventContract "Contract" "allEvents") := by
    cbv
  have hrenders := (Contract.yields_readEntries _ _ _).of_ok hread
  refine ⟨hname, _, hread, ?_, outermostNames_topRows hname rfl, ?_⟩
  · rw [typings, writes_documentText hrenders]
  · rw [eventsBlock_of_readEntries hread]
    exact memberNames?_subscriptionsTo (by decide)

end AbiTypings
