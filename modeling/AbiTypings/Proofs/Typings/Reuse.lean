import AbiTypings.Proofs.Typings.Offenders

/-!
# Using a generator again

A generator is asked for documents and for parts of documents, one after the other, and all that
these requests share is one layout. A request that fails leaves the level where it stopped, so the
next one may start too deep, and a level can also be set from outside, even below zero. Still a
document never depends on what was asked for before it: the unit of indentation is the only thing
that survives a document's first step, and no request changes it.

`Request.levelLaw` says where every request leaves the level, and `generator_reuse` carries it
through a run of any length.
-/

namespace AbiTypings

/-! ## Requests -/

/-- What a generator can be asked for. -/
inductive Request where
  /-- The document of a contract. -/
  | document (c : Contract)
  /-- The class of a contract alone. -/
  | classOnly (c : Contract)
  /-- The subscription to an event. -/
  | event (e : Event)
  /-- The subscription to all events. -/
  | allEvents
  /-- The line of a method. -/
  | method (m : Method)
  /-- The line of an accessor. -/
  | accessor (a : Accessor)
  /-- The type of the result of a call. -/
  | results (outputs : List Parameter)
  /-- The parameter list of a method. -/
  | parameters (inputs : List Parameter)
  /-- The declarations every class relies on. -/
  | preamble
  /-- The type of a call that has been prepared. -/
  | transaction
  /-- The lines of the parameters of a subscription. -/
  | subscription
  /-- To go on at another level. -/
  | setLevel (level : Int)
  /-- To go on at level zero. -/
  | reset

namespace Request

/-- Answers a request with texts. -/
def answer : Request → LayoutM (List Text)
  | document c => do return [← documentText c]
  | classOnly c => do return [← classBlock c]
  | event e => do return [← eventBlock e]
  | allEvents => do return [← allEventsBlock]
  | method m => do return [← methodLine m]
  | accessor a => do return [← accessorLine a]
  | results outputs => do return [← MonadExcept.ofExcept (renderOutputs outputs)]
  | parameters inputs => do return [← MonadExcept.ofExcept (renderInputs inputs)]
  | preamble => do return [← preambleBlock]
  | transaction => do return [← transactionBlock]
  | subscription => subscriptionLines
  | setLevel level => do
    LayoutM.setLevel level
    return []
  | reset => do
    LayoutM.setLevel 0
    return []

/-- The level after a request that is answered. -/
def levelAnswered (level : Int) : Request → Int
  | document _ => 0
  | setLevel newLevel => newLevel
  | reset => 0
  | _ => level

/-- The level after a request that fails. -/
def levelFailed (level : Int) : Request → Int
  | document _ => 2
  | classOnly _ => level + 2
  | _ => level

end Request

/-! ## Runs -/

/-- A request of a run with its answer or fault, and the layouts before and after it. -/
structure Exchange where
  /-- The request. -/
  request : Request
  /-- The layout it meets. -/
  before : Layout
  /-- The answer, or the fault. -/
  answer : Except Fault (List Text)
  /-- The layout it leaves. -/
  after : Layout

/-- What happens to a request under a layout. -/
def Request.exchange (r : Request) (l : Layout) : Exchange :=
  match r.answer.run l with
  | .ok texts l' => ⟨r, l, .ok texts, l'⟩
  | .error fault l' => ⟨r, l, .error fault, l'⟩

/-- What happens in a run. A request that fails does not end it. -/
def exchanges (l : Layout) : List Request → List Exchange
  | [] => []
  | r :: rest => r.exchange l :: exchanges (r.exchange l).after rest

def layoutAfter (l : Layout) (run : List Request) : Layout :=
  run.foldl (fun l r ↦ (r.exchange l).after) l

/-- The level is left where the request and its outcome say, and nothing else changes. -/
def Exchange.LevelLaw (e : Exchange) : Prop :=
  match e.answer with
  | .ok _ => e.after = { e.before with level := e.request.levelAnswered e.before.level }
  | .error _ => e.after = { e.before with level := e.request.levelFailed e.before.level }

/-! ## Where a request leaves the level -/

namespace Request

variable {r : Request} {l : Layout}

theorem exchange_of_ok {texts : List Text} {l' : Layout} (h : r.answer.run l = .ok texts l') :
    r.exchange l = ⟨r, l, .ok texts, l'⟩ := by
  rw [exchange, h]

theorem exchange_of_error {fault : Fault} {l' : Layout} (h : r.answer.run l = .error fault l') :
    r.exchange l = ⟨r, l, .error fault, l'⟩ := by
  rw [exchange, h]

/-- A request that is an attempt comes back from every level it has gone to, or it stops there. -/
theorem levelLaw_of_attempts {sites : List Site} {depth : Int}
    (h : LayoutM.Attempts sites depth r.answer)
    (hanswered : r.levelAnswered l.level = l.level)
    (hfailed : r.levelFailed l.level = l.level + depth) : (r.exchange l).LevelLaw := by
  cases hfirst : firstOffender? sites with
  | none =>
    obtain ⟨texts, htexts⟩ := h.of_none hfirst l
    rw [exchange_of_ok htexts]
    show l = { l with level := r.levelAnswered l.level }
    rw [hanswered]
  | some node =>
    rw [exchange_of_error (h.of_some hfirst l)]
    show { l with level := l.level + depth } = { l with level := r.levelFailed l.level }
    rw [hfailed]

theorem levelLaw_document (c : Contract) (l : Layout) : ((document c).exchange l).LevelLaw := by
  have hrun := run_documentText c l
  cases hfirst : firstOffender? c.sites with
  | none =>
    rw [hfirst] at hrun
    obtain ⟨text, htext⟩ := hrun
    have hanswer : (document c).answer.run l = .ok [text] { l with level := 0 } := by
      rw [answer, EStateM.run_bind, htext]
      rfl
    rw [exchange_of_ok hanswer]
    rfl
  | some node =>
    rw [hfirst] at hrun
    have hanswer : (document c).answer.run l
        = .error (.unrecognizedType node) { l with level := 2 } := by
      rw [answer, EStateM.run_bind, hrun]
    rw [exchange_of_error hanswer]
    rfl

theorem levelLaw_of_text {sites : List Site} {depth : Int} {write : LayoutM Text}
    (hanswer : r.answer = do return [← write]) (h : LayoutM.Attempts sites depth write)
    (hanswered : r.levelAnswered l.level = l.level)
    (hfailed : r.levelFailed l.level = l.level + depth) : (r.exchange l).LevelLaw := by
  have htext : LayoutM.Attempts sites depth r.answer := by
    rw [hanswer]
    exact h.bind_nil fun text ↦ LayoutM.attempts_pure [text]
  exact levelLaw_of_attempts htext hanswered hfailed

/-- **One request.** -/
theorem levelLaw (r : Request) (l : Layout) : (r.exchange l).LevelLaw := by
  have hsame : l.level = l.level + 0 := (Int.add_zero l.level).symm
  cases r with
  | document c => exact levelLaw_document c l
  | classOnly c => exact levelLaw_of_text rfl (attempts_classBlock c) rfl rfl
  | event e => exact levelLaw_of_text rfl (attempts_eventBlock e) rfl hsame
  | allEvents => exact levelLaw_of_text rfl attempts_allEventsBlock rfl hsame
  | method m => exact levelLaw_of_text rfl (attempts_methodLine m) rfl hsame
  | accessor a => exact levelLaw_of_text rfl (attempts_accessorLine a) rfl hsame
  | results outputs =>
    have hresults := LayoutM.attempts_ofExcept (examines_renderOutputs outputs)
    exact levelLaw_of_text rfl hresults rfl hsame
  | parameters inputs =>
    have hparameters := LayoutM.attempts_ofExcept (examines_renderInputs inputs)
    exact levelLaw_of_text rfl hparameters rfl hsame
  | preamble => exact levelLaw_of_text rfl attempts_preambleBlock rfl hsame
  | transaction => exact levelLaw_of_text rfl attempts_transactionBlock rfl hsame
  | subscription => exact levelLaw_of_attempts attempts_subscriptionLines rfl hsame
  | setLevel level => rfl
  | reset => rfl

end Request

/-! ## Runs of any length -/

theorem Exchange.LevelLaw.unit_eq {e : Exchange} (h : e.LevelLaw) :
    e.after.unit = e.before.unit := by
  rw [LevelLaw] at h
  cases hanswer : e.answer with
  | ok texts =>
    rw [hanswer] at h
    rw [h]
  | error fault =>
    rw [hanswer] at h
    rw [h]

theorem before_exchange (r : Request) (l : Layout) : (r.exchange l).before = l := by
  rw [Request.exchange]
  split <;> rfl

theorem levelLaw_of_mem_exchanges (l : Layout) (run : List Request) :
    ∀ e ∈ exchanges l run, e.LevelLaw := by
  induction run generalizing l with
  | nil => exact fun e he ↦ absurd he List.not_mem_nil
  | cons r rest ih =>
    rw [exchanges, List.forall_mem_cons]
    exact ⟨r.levelLaw l, ih _⟩

theorem unit_layoutAfter (l : Layout) (run : List Request) : (layoutAfter l run).unit = l.unit := by
  induction run generalizing l with
  | nil => rfl
  | cons r rest ih =>
    have hstep := (r.levelLaw l).unit_eq
    rw [before_exchange] at hstep
    rw [layoutAfter, List.foldl_cons, ← layoutAfter, ih, hstep]

/-- A document starts from level zero, so it depends on the unit of indentation alone. -/
theorem run_documentText_congr (c : Contract) {l l' : Layout} (h : l.unit = l'.unit) :
    (documentText c).run l = (documentText c).run l' := by
  have hstart : ∀ l : Layout, (documentText c).run l = (documentText c).run { unit := l.unit } :=
    fun l ↦ rfl
  rw [hstart l, hstart l', h]

/-- **Reuse.** Along every run each request leaves the level where its kind and its outcome say, and
after every run a document is what a fresh generator with the same unit of indentation gives. -/
theorem generator_reuse (l : Layout) (run : List Request) :
    (∀ e ∈ exchanges l run, e.LevelLaw) ∧
      ∀ c, (documentText c).run (layoutAfter l run) = (documentText c).run { unit := l.unit } := by
  refine ⟨levelLaw_of_mem_exchanges l run, fun c ↦ ?_⟩
  exact run_documentText_congr c (unit_layoutAfter l run)

/-- Classes that fail add up, until a level is set. -/
example :
    let vault : Contract :=
      ⟨.str "Vault", [⟨⟨.str "open", [⟨.null, .void⟩], []⟩, false⟩], [], [], []⟩
    (layoutAfter { level := -3 } [.classOnly vault, .preamble, .classOnly vault]).level = 1 ∧
      (layoutAfter { level := -3 } [.classOnly vault, .reset, .document vault]).level = 2 :=
  ⟨rfl, rfl⟩

end AbiTypings
