import MobileSchema.Proofs.Schema.Building
import MobileSchema.Proofs.Schema.Validity

/-!
# Runs of building

A caller has only the objects that earlier calls gave it, so `Run` keeps the history of a run: each
call with what it came to.  A call is permitted on models that the history has made, and a backlink
can reverse only what the history has made a relation of the source (`Permits`).  Calls that are
refused, for their options or for what they ask, are part of the history as well.

Each call keeps the schema sound (`Sound.keeps_build`) and what it gives out is listed
(`Traced.mem_of_model`, `Traced.mem_of_relation`).  Together these are kept by each step of a run
(`Traced.step`), so that at each point of a run nothing but names can be wrong.
-/

namespace MobileSchema

variable {g g₀ : Graph} {s : SchemaId}

/-! ### Calls as they are written -/

/-- A call as it is written, with its options by name. -/
inductive WrittenCall
  | model (schema : SchemaId) (name : String)
  | field (model : ModelId) (name : String) (kind : Value) (options : List NamedOption)
  | typed (model : ModelId) (builder : FieldBuilder) (name : String)
      (options : List NamedOption)
  | relation (many : Bool) (model : ModelId) (name : String) (target : ModelId)
      (options : List NamedOption)
  | backlink (model : ModelId) (name : String) (source : ModelId) (forward : PropertyId)
      (options : List NamedOption)

/-- The call that is meant, if it knows all its options. -/
def WrittenCall.read : WrittenCall → Except SchemaFault BuildCall
  | model schema name => .ok (.model schema name)
  | field m name kind options => (FieldOptions.ofNamed options).map (.field m name kind)
  | typed m builder name options => (builder.optionsOfNamed options).map (.typed m builder name)
  | relation many m name target options =>
    (LinkOptions.ofNamed many options).map (.relation many m name (.model target))
  | backlink m name source forward options =>
    (backlinkPrivacyOfNamed options).map (.backlink m name (.model source) (.property forward))

/-- The graph after a written call, and what the call has built.  A call whose options are refused
builds nothing. -/
def Graph.perform (g : Graph) (call : WrittenCall) : Graph × Except SchemaFault Built :=
  match call.read with
  | .error fault => (g, .error fault)
  | .ok call => g.build call

theorem Graph.perform_of_refused {call : WrittenCall} {fault : SchemaFault}
    (h : call.read = .error fault) : g.perform call = (g, .error fault) := by
  rw [perform, h]

theorem Graph.perform_of_read {call : WrittenCall} {built : BuildCall} (h : call.read = .ok built) :
    g.perform call = g.build built := by
  rw [perform, h]

/-! ### Runs -/

/-- A call with what it came to. -/
structure Event where
  call : WrittenCall
  outcome : Except SchemaFault Built

/-- Whether a history has made a model of a schema. -/
def HasModel (s : SchemaId) (history : List Event) (m : ModelId) : Prop :=
  ∃ name, ⟨.model s name, .ok (.model m)⟩ ∈ history

/-- Whether a history has made a relation by a call on a model. -/
def HasRelation (history : List Event) (source : ModelId) (p : PropertyId) : Prop :=
  ∃ many name target options,
    ⟨.relation many source name target options, .ok (.property p)⟩ ∈ history

/-- Whether a history lets a call on a schema follow: all that the call mentions was made before. -/
def Permits (s : SchemaId) (history : List Event) : WrittenCall → Prop
  | .model schema _ => schema = s
  | .field m .. | .typed m .. => HasModel s history m
  | .relation _ m _ target _ => HasModel s history m ∧ HasModel s history target
  | .backlink m _ source forward _ =>
    HasModel s history m ∧ HasModel s history source ∧ HasRelation history source forward

/-- The graphs that runs of calls on a schema lead to, each with the history of its run. -/
inductive Run (g₀ : Graph) (s : SchemaId) : List Event → Graph → Prop
  | start : Run g₀ s [] g₀
  | step {history : List Event} {g : Graph} {call : WrittenCall} :
      Run g₀ s history g → Permits s history call →
      Run g₀ s (history ++ [⟨call, (g.perform call).2⟩]) (g.perform call).1

/-! ### What a run keeps -/

namespace Graph

/-- A relation that was declared is listed by its model. -/
theorem mem_of_declareRelation (h : g.Sound s) {many : Bool} {m o : ModelId} {name : String}
    {link : LinkOptions} {p : PropertyId} (hm : m ∈ g.modelsOf s) (ho : o ∈ g.modelsOf s)
    (hp : (g.declareRelation many m name (.model o) link).2 = .ok p) :
    p ∈ (g.declareRelation many m name (.model o) link).1.listed m := by
  have hd := h.keeps_declare hm (fits_relation many ho) name false
  have hmem := listed_declare_self (h.knownModel m hm) name
    (if many then .toMany (.model o) else .toOne (.model o)) false
  rw [declareRelation] at hp ⊢
  split at hp
  · cases hp
  · next hlink =>
    rw [if_neg hlink]
    dsimp only at hp ⊢
    split at hp
    · next hcreate =>
      cases hp
      rw [if_pos hcreate]
      -- the backlink comes behind the relation, in the list of another model or in the same
      exact (mem_listed_declare (hd.1.knownModel o (hd.2.models o ho))).2 (.inl hmem)
    · next hcreate =>
      cases hp
      rw [if_neg hcreate]
      exact hmem

end Graph

/-- What the history of a run says about its graph. -/
structure Traced (s : SchemaId) (history : List Event) (g : Graph) : Prop where
  sound : g.Sound s
  models : ∀ m, HasModel s history m → m ∈ g.modelsOf s
  relations : ∀ source p, HasRelation history source p →
    source ∈ g.modelsOf s ∧ p ∈ g.listed source

namespace Traced

variable {history : List Event}

/-- A permitted call mentions models of the schema and relations that they list. -/
theorem addresses (h : Traced s history g) {call : WrittenCall} (hc : Permits s history call)
    {built : BuildCall} (hread : call.read = .ok built) : built.Addresses g s := by
  cases call with
  | model schema name =>
    cases hread
    exact hc
  | field m name kind options =>
    obtain ⟨_, -, rfl⟩ := map_eq_ok.1 hread
    exact h.models m hc
  | typed m builder name options =>
    obtain ⟨_, -, rfl⟩ := map_eq_ok.1 hread
    exact h.models m hc
  | relation many m name target options =>
    obtain ⟨_, -, rfl⟩ := map_eq_ok.1 hread
    exact ⟨h.models m hc.1, target, h.models target hc.2, rfl⟩
  | backlink m name source forward options =>
    obtain ⟨_, -, rfl⟩ := map_eq_ok.1 hread
    obtain ⟨hm, hs, hf⟩ := hc
    exact ⟨h.models m hm, source, h.models source hs, rfl, forward, (h.relations _ _ hf).2, rfl⟩

/-- A permitted call leaves the schema sound, whether it is refused or not. -/
theorem keeps_perform (h : Traced s history g) {call : WrittenCall} (hc : Permits s history call) :
    g.Keeps (g.perform call).1 s := by
  rcases hread : call.read with fault | built
  · rw [Graph.perform_of_refused hread]
    exact ⟨h.sound, .refl g s⟩
  · rw [Graph.perform_of_read hread]
    exact h.sound.keeps_build (h.addresses hc hread)

/-- A model that a call gives out is listed by the schema. -/
theorem mem_of_model (h : Traced s history g) {name : String} {m : ModelId}
    (hout : (g.perform (.model s name)).2 = .ok (.model m)) :
    m ∈ (g.perform (.model s name)).1.modelsOf s := by
  cases hout
  exact (Graph.mem_modelsOf_declareModel h.sound.known).2 (.inr rfl)

/-- A relation that a call gives out is listed by the model that it was called on. -/
theorem mem_of_relation (h : Traced s history g) {many : Bool} {source target : ModelId}
    {name : String} {options : List NamedOption} {p : PropertyId}
    (hc : Permits s history (.relation many source name target options))
    (hout : (g.perform (.relation many source name target options)).2 = .ok (.property p)) :
    p ∈ (g.perform (.relation many source name target options)).1.listed source := by
  rcases hread : (WrittenCall.relation many source name target options).read with fault | built
  · rw [Graph.perform_of_refused hread] at hout
    cases hout
  · rw [Graph.perform_of_read hread] at hout ⊢
    obtain ⟨link, -, rfl⟩ := map_eq_ok.1 hread
    obtain ⟨q, hq, heq⟩ := map_eq_ok.1 hout
    cases heq
    exact Graph.mem_of_declareRelation h.sound (h.models _ hc.1) (h.models _ hc.2) hq

/-- The step: a permitted call keeps what is known about the history and its graph. -/
theorem step (h : Traced s history g) {call : WrittenCall} (hc : Permits s history call) :
    Traced s (history ++ [⟨call, (g.perform call).2⟩]) (g.perform call).1 := by
  have hk := h.keeps_perform hc
  -- what the history has made is an old model, which is kept, or the one that this call gives out
  have hmodels : ∀ m, HasModel s (history ++ [⟨call, (g.perform call).2⟩]) m →
      m ∈ (g.perform call).1.modelsOf s := by
    rintro m ⟨name, hm⟩
    rcases List.mem_append.1 hm with hm | hm
    · exact hk.2.models m (h.models m ⟨name, hm⟩)
    · obtain ⟨rfl, hout⟩ := Event.mk.inj (List.mem_singleton.1 hm)
      exact h.mem_of_model hout.symm
  refine ⟨hk.1, hmodels, ?_⟩
  rintro source p ⟨many, name, target, options, hp⟩
  rcases List.mem_append.1 hp with hp | hp
  · obtain ⟨hs, hp⟩ := h.relations source p ⟨many, name, target, options, hp⟩
    exact ⟨hk.2.models source hs, hk.2.listed source hs p hp⟩
  · obtain ⟨rfl, hout⟩ := Event.mk.inj (List.mem_singleton.1 hp)
    exact ⟨hk.2.models source (h.models source hc.1), h.mem_of_relation hc hout.symm⟩

end Traced

/-! ### New schemas -/

namespace Graph

/-- A graph with one more schema, which lists no models yet. -/
def newSchema (g : Graph) (package module : Option String) : Graph × SchemaId :=
  g.addSchema { packageName := package, moduleName := module }

/-- A new schema is sound, as it has no models. -/
theorem sound_newSchema (g : Graph) (package module : Option String) :
    (g.newSchema package module).1.Sound (g.newSchema package module).2 := by
  have hslots :
      ((g.newSchema package module).1.schema (g.newSchema package module).2).slots = [] := by
    rw [newSchema, schema_addSchema_self]
  have hnone : ∀ m, m ∉ (g.newSchema package module).1.modelsOf (g.newSchema package module).2 := by
    intro m hm
    rw [mem_modelsOf, hslots] at hm
    cases hm
  -- every condition speaks of listed models, of which there are none
  refine {
    models := ?models, properties := ?properties, owner := ?owner, fits := ?fits, key := ?key,
    known := ?known, knownModel := ?knownModel, knownProperty := ?knownProperty }
  case models =>
    intro r hr
    rw [hslots] at hr
    cases hr
  case properties =>
    exact fun m hm => absurd hm (hnone m)
  case owner =>
    exact fun m hm => absurd hm (hnone m)
  case fits =>
    exact fun m hm => absurd hm (hnone m)
  case key =>
    exact fun m hm => absurd hm (hnone m)
  case known =>
    simp [newSchema, addSchema]
  case knownModel =>
    exact fun m hm => absurd hm (hnone m)
  case knownProperty =>
    exact fun m hm => absurd hm (hnone m)

end Graph

/-- The run: what is known about a history and its graph holds after every run. -/
theorem Run.traced {package module : Option String} {history : List Event}
    (h : Run (g₀.newSchema package module).1 (g₀.newSchema package module).2 history g) :
    Traced (g₀.newSchema package module).2 history g := by
  induction h with
  | start =>
    refine ⟨g₀.sound_newSchema package module, ?_, ?_⟩
    · rintro m ⟨_, hm⟩
      cases hm
    · rintro source p ⟨_, _, _, _, hp⟩
      cases hp
  | step _ hc ih => exact ih.step hc

/-- In a schema that is built by a run, nothing but names can be wrong: the check reports only names
that are given several times, and accepts the schema exactly if the names of the models differ and
so do, inside each model, the names of its properties. -/
theorem run_issues {package module : Option String} {history : List Event}
    (h : Run (g₀.newSchema package module).1 (g₀.newSchema package module).2 history g) :
    (∃ issues, g.issues (g₀.newSchema package module).2 = .ok issues ∧
      ∀ issue ∈ issues, issue.code = "model.duplicate" ∨ issue.code = "property.duplicate") ∧
    (g.validate (g₀.newSchema package module).2 = .ok () ↔
      (g.modelNames (g₀.newSchema package module).2).Nodup ∧
        ∀ m ∈ g.modelsOf (g₀.newSchema package module).2, (g.listedNames m).Nodup) := by
  have hclosed := h.traced.sound.toClosed
  refine ⟨⟨_, Graph.issues_eq hclosed.wellPointed, ?_⟩, ?_⟩
  · intro issue hissue
    obtain ⟨v, hv, rfl⟩ := List.mem_map.1 hissue
    rcases hclosed.eq_name_of_violates (Graph.mem_violations.1 hv) with
      ⟨name, rfl⟩ | ⟨i, m, name, rfl⟩
    · exact .inl rfl
    · exact .inr rfl
  · rw [Graph.validate_eq_ok_iff]
    exact ⟨And.right, fun hnames => ⟨hclosed, hnames⟩⟩

/-- A run with a key that another field takes over, an option that is not known, a relation of a
model to itself with its backlink, a backlink that is refused and one that is made later. -/
theorem run_issues_kennel :
    ∃ history g, Run (({} : Graph).newSchema (some "zoo") none).1 ⟨0⟩ history g ∧
      history.map Event.call = [
        .model ⟨0⟩ "Dog",
        .typed ⟨0⟩ .string "name" [.flag .primaryKey true],
        .field ⟨0⟩ "tag" (.text "int64") [.flag .primaryKey true],
        .field ⟨0⟩ "fur" (.text "string") [.other "colour" (by decide)],
        .relation true ⟨0⟩ "puppies" ⟨0⟩
          [.flag .createLinkingObjects true, .linkName "parents"],
        .relation false ⟨0⟩ "sire" ⟨0⟩ [.flag .createLinkingObjects true],
        .backlink ⟨0⟩ "litters" ⟨0⟩ ⟨2⟩ []] ∧
      (g.model ⟨0⟩).primaryKey = .property ⟨1⟩ ∧ g.validate ⟨0⟩ = .ok () := by
  have h₁ := Run.step (.start : Run (({} : Graph).newSchema (some "zoo") none).1 ⟨0⟩ _ _)
    (show Permits _ _ (.model ⟨0⟩ "Dog") from rfl)
  have h₂ := h₁.step
    (show Permits _ _ (.typed ⟨0⟩ .string "name" [.flag .primaryKey true]) from
      ⟨"Dog", .head _⟩)
  have h₃ := h₂.step
    (show Permits _ _ (.field ⟨0⟩ "tag" (.text "int64") [.flag .primaryKey true]) from
      ⟨"Dog", .head _⟩)
  have h₄ := h₃.step
    (show Permits _ _ (.field ⟨0⟩ "fur" (.text "string") [.other "colour" (by decide)]) from
      ⟨"Dog", .head _⟩)
  have h₅ := h₄.step
    (show Permits _ _ (.relation true ⟨0⟩ "puppies" ⟨0⟩
        [.flag .createLinkingObjects true, .linkName "parents"]) from
      ⟨⟨"Dog", .head _⟩, "Dog", .head _⟩)
  have h₆ := h₅.step
    (show Permits _ _ (.relation false ⟨0⟩ "sire" ⟨0⟩ [.flag .createLinkingObjects true]) from
      ⟨⟨"Dog", .head _⟩, "Dog", .head _⟩)
  have h₇ := h₆.step
    (show Permits _ _ (.backlink ⟨0⟩ "litters" ⟨0⟩ ⟨2⟩ []) from
      ⟨⟨"Dog", .head _⟩, ⟨"Dog", .head _⟩, true, "puppies", ⟨0⟩, _,
        .tail _ (.tail _ (.tail _ (.tail _ (.head _))))⟩)
  refine ⟨_, _, h₇, rfl, by decide +kernel, (run_issues h₇).2.2 ⟨by decide +kernel, ?_⟩⟩
  decide +kernel

end MobileSchema
