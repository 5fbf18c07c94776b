import MobileSchema.Proofs.Schema.Swapping

/-!
# Scripts

A script builds up one schema, line by line.  A line keeps what it builds, or finds by its name,
under a label, and later lines speak of objects by their labels only, so that a script knows no
numbers (`Script.Stage.run`).  A line that is refused, or that mentions a label which stands for
nothing, changes nothing, and the script goes on.

Two lines next to each other that build properties can change places if neither uses what the other
builds and they append to different models.  The numbers of what they build differ then, and with
them what the labels stand for; but they differ in the same way wherever the rest of the script
meets them, so that the two scripts lead to one graph up to a renaming (`Script.Stage.run_swap`).
-/

namespace MobileSchema

/-- The model that was built. -/
def Built.model? : Built → Option ModelId
  | .model m => some m
  | .property _ => none

/-- The property that was built. -/
def Built.property? : Built → Option PropertyId
  | .model _ => none
  | .property p => some p

namespace Script

/-! ### Lines -/

/-- What a line does.  Labels stand for the objects that it is done with. -/
inductive Command
  | model (name : String)
  /-- looks up a property by its name, such as a backlink that came with its relation -/
  | find (model name : String)
  | field (model name : String) (kind : Value) (options : List NamedOption)
  | typed (model : String) (builder : FieldBuilder) (name : String)
      (options : List NamedOption)
  | relation (many : Bool) (model name target : String) (options : List NamedOption)
  | backlink (model name source forward : String) (options : List NamedOption)

/-- A line of a script, with the label of what it builds or finds. -/
structure Line where
  label : String
  command : Command

/-- What labels stand for. -/
structure Labels where
  models : String → Option ModelId := fun _ => none
  properties : String → Option PropertyId := fun _ => none

/-- How far a script has come. -/
structure Stage where
  graph : Graph
  labels : Labels := {}

/-- Keeps what was built under a label, which stood for something else before. -/
def Labels.keep (labels : Labels) (label : String) (built : Option Built) : Labels where
  models l := if l = label then (built.bind Built.model?).or (labels.models l) else labels.models l
  properties l :=
    if l = label then (built.bind Built.property?).or (labels.properties l)
    else labels.properties l

namespace Labels

variable {g g' : Graph} {labels : Labels} {label l : String} {built : Option Built}

theorem keep_none (labels : Labels) (label : String) : labels.keep label none = labels := by
  simp only [keep, Option.bind_none, Option.none_or, ite_self]

theorem models_keep_of_none (h : built.bind Built.model? = none) :
    (labels.keep label built).models = labels.models := by
  simp only [keep, h, Option.none_or, ite_self]

/-- A label stands for what it was given to last, or for what it stood for before. -/
theorem cases_models_keep {m : ModelId} (h : (labels.keep label built).models l = some m) :
    built = some (.model m) ∨ labels.models l = some m := by
  rw [keep] at h
  dsimp only at h
  split at h
  · rcases built with _ | ⟨o⟩ | ⟨p⟩
    · exact .inr h
    · cases h
      exact .inl rfl
    · exact .inr h
  · exact .inr h

theorem cases_properties_keep {p : PropertyId}
    (h : (labels.keep label built).properties l = some p) :
    built = some (.property p) ∨ labels.properties l = some p := by
  rw [keep] at h
  dsimp only at h
  split at h
  · rcases built with _ | ⟨o⟩ | ⟨q⟩
    · exact .inr h
    · exact .inr h
    · cases h
      exact .inl rfl
  · exact .inr h

/-- Whether labels stand only for objects that are there. -/
structure Known (g : Graph) (labels : Labels) : Prop where
  models : ∀ label m, labels.models label = some m → m.index < g.models.length
  properties : ∀ label p, labels.properties label = some p → p.index < g.properties.length

/-- Labels that stand for what is there still do when one more is given. -/
theorem Known.keep (h : labels.Known g) (hm : g.models.length ≤ g'.models.length)
    (hp : g.properties.length ≤ g'.properties.length)
    (hbuilt : ∀ b, built = some b → b.reference.Known g') : (labels.keep label built).Known g' where
  models := by
    intro l m hl
    rcases cases_models_keep hl with hnew | hold
    · exact hbuilt _ hnew
    · exact Nat.lt_of_lt_of_le (h.models l m hold) hm
  properties := by
    intro l p hl
    rcases cases_properties_keep hl with hnew | hold
    · exact hbuilt _ hnew
    · exact Nat.lt_of_lt_of_le (h.properties l p hold) hp

end Labels

namespace Command

/-- The call that a command asks for on a schema, if its labels stand for something. -/
def call (s : SchemaId) (labels : Labels) : Command → Option WrittenCall
  | model name => some (.model s name)
  | find .. => none
  | field m name kind options => (labels.models m).map (.field · name kind options)
  | typed m builder name options => (labels.models m).map (.typed · builder name options)
  | relation many m name target options =>
    (labels.models m).bind fun m => (labels.models target).map (.relation many m name · options)
  | backlink m name source forward options =>
    (labels.models m).bind fun m => (labels.models source).bind fun source =>
      (labels.properties forward).map (.backlink m name source · options)

/-- The property that a command finds. -/
def found (stage : Stage) : Command → Option Built
  | find m name => (stage.labels.models m).bind fun m =>
    (stage.graph.findProperty m name).toOption.bind fun r => r.property?.map .property
  | _ => none

/-- Whether a command builds a property. -/
def BuildsProperty : Command → Prop
  | model .. | find .. => False
  | field .. | typed .. | relation .. | backlink .. => True

/-- The labels of properties that a command uses. -/
def uses : Command → List String
  | backlink _ _ _ forward _ => [forward]
  | _ => []

/-- The models that a command appends to. -/
def appendsTo (s : SchemaId) (labels : Labels) (command : Command) : List ModelId :=
  (command.call s labels).elim [] WrittenCall.appendsTo

end Command

namespace Stage

/-- What a command leads to on a schema: the graph, and what was built or found. -/
def obey (s : SchemaId) (stage : Stage) (command : Command) : Graph × Option Built :=
  match command.call s stage.labels with
  | none => (stage.graph, command.found stage)
  | some call => ((stage.graph.perform call).1, (stage.graph.perform call).2.toOption)

/-- The stage after a line. -/
def next (s : SchemaId) (stage : Stage) (line : Line) : Stage where
  graph := (stage.obey s line.command).1
  labels := stage.labels.keep line.label (stage.obey s line.command).2

/-- The stage after a script that builds up a schema. -/
def run (s : SchemaId) (stage : Stage) (script : List Line) : Stage := script.foldl (next s) stage

/-- The stage at which a script begins that builds up a new schema, with labels for what is
there. -/
def start (g₀ : Graph) (package module : Option String) (labels : Labels) : Stage where
  graph := (g₀.newSchema package module).1
  labels

variable {σ : Equiv.Perm PropertyId} {s : SchemaId} {stage stage' : Stage} {line a b : Line}
  {command : Command} {call : WrittenCall}

/-- A line that calls does what the call does. -/
theorem obey_of_call (h : command.call s stage.labels = some call) :
    stage.obey s command =
      ((stage.graph.perform call).1, (stage.graph.perform call).2.toOption) := by
  rw [obey, h]

/-- A line that calls nothing looks something up, or its labels stand for nothing; the graph stays
as it is. -/
theorem obey_of_not_call (h : command.call s stage.labels = none) :
    stage.obey s command = (stage.graph, command.found stage) := by
  rw [obey, h]

theorem graph_next : (stage.next s line).graph = (stage.obey s line.command).1 := rfl

theorem properties_next (label : String) : (stage.next s line).labels.properties label =
    if label = line.label then
      ((stage.obey s line.command).2.bind Built.property?).or (stage.labels.properties label)
    else stage.labels.properties label := rfl

/-! ### What labels stand for -/

/-- Whether all that a script can speak of is there. -/
structure Anchored (s : SchemaId) (stage : Stage) : Prop where
  graph : stage.graph.Anchored
  schema : s.index < stage.graph.schemas.length
  labels : stage.labels.Known stage.graph

/-- At the start there is a new schema, and the labels stand for what is there. -/
theorem anchored_start {g₀ : Graph} {labels : Labels} (hg : g₀.Anchored) (hlabels : labels.Known g₀)
    (package module : Option String) :
    (start g₀ package module labels).Anchored (g₀.newSchema package module).2 where
  graph := hg.newSchema package module
  schema := by simp [start, Graph.newSchema, Graph.addSchema]
  labels := ⟨hlabels.models, hlabels.properties⟩

/-- A script can call only on what there is. -/
theorem Anchored.known (h : stage.Anchored s) (hcall : command.call s stage.labels = some call) :
    call.Known stage.graph := by
  cases command with
  | model name =>
    cases hcall
    exact h.schema
  | find m name => cases hcall
  | field m name kind options =>
    obtain ⟨o, ho, rfl⟩ := Option.map_eq_some_iff.1 hcall
    exact h.labels.models m o ho
  | typed m builder name options =>
    obtain ⟨o, ho, rfl⟩ := Option.map_eq_some_iff.1 hcall
    exact h.labels.models m o ho
  | relation many m name target options =>
    obtain ⟨o, ho, hcall⟩ := Option.bind_eq_some_iff.1 hcall
    obtain ⟨t, ht, rfl⟩ := Option.map_eq_some_iff.1 hcall
    exact ⟨h.labels.models m o ho, h.labels.models target t ht⟩
  | backlink m name source forward options =>
    obtain ⟨o, ho, hcall⟩ := Option.bind_eq_some_iff.1 hcall
    obtain ⟨t, ht, hcall⟩ := Option.bind_eq_some_iff.1 hcall
    obtain ⟨p, hp, rfl⟩ := Option.map_eq_some_iff.1 hcall
    exact ⟨h.labels.models m o ho, h.labels.models source t ht, h.labels.properties forward p hp⟩

/-- What a line looks up is there. -/
theorem Anchored.found (h : stage.Anchored s) {built : Built}
    (hfound : command.found stage = some built) : built.reference.Known stage.graph := by
  cases command with
  | find m name =>
    obtain ⟨o, -, hfound⟩ := Option.bind_eq_some_iff.1 hfound
    obtain ⟨r, hr, hfound⟩ := Option.bind_eq_some_iff.1 hfound
    obtain ⟨p, hp, rfl⟩ := Option.map_eq_some_iff.1 hfound
    cases r with
    | property q =>
      cases hp
      -- a search gives a property only if one is found
      have hnamed : stage.graph.findProperty o name = .ok (.property p) := by
        cases hout : stage.graph.findProperty o name with
        | error fault =>
          rw [hout] at hr
          cases hr
        | ok r =>
          rw [hout] at hr
          cases hr
          rfl
      rcases Graph.mem_of_findNamed hnamed with hnone | hmem
      · cases hnone
      · exact (Graph.anchored_iff.1 h.graph).2.1 o _ hmem
    | nothing | schema | model | text => cases hp
  | model | field | typed | relation | backlink => cases hfound

/-- Each line leaves all that the script can speak of where it is. -/
theorem Anchored.next (h : stage.Anchored s) (line : Line) : (stage.next s line).Anchored s := by
  -- what was built or found is there, and nothing that was there is gone
  have hkeeps : (stage.obey s line.command).1.Anchored ∧
      stage.graph.schemas.length ≤ (stage.obey s line.command).1.schemas.length ∧
      stage.graph.models.length ≤ (stage.obey s line.command).1.models.length ∧
      stage.graph.properties.length ≤ (stage.obey s line.command).1.properties.length ∧
      ∀ built, (stage.obey s line.command).2 = some built →
        built.reference.Known (stage.obey s line.command).1 := by
    cases hcall : line.command.call s stage.labels with
    | none =>
      rw [obey_of_not_call hcall]
      exact ⟨h.graph, Nat.le_refl _, Nat.le_refl _, Nat.le_refl _, fun _ hbuilt => h.found hbuilt⟩
    | some call =>
      have hknown := h.known hcall
      obtain ⟨hanchored, hschemas, hout⟩ := h.graph.perform hknown
      have hextends := (Graph.extends_perform hknown).1
      rw [obey_of_call hcall]
      refine ⟨hanchored, hschemas, hextends.length_models, hextends.length_properties, ?_⟩
      intro built hbuilt
      refine hout built ?_
      cases hresult : (stage.graph.perform call).2 with
      | error fault =>
        rw [hresult] at hbuilt
        cases hbuilt
      | ok other =>
        rw [hresult] at hbuilt
        cases hbuilt
        rfl
  obtain ⟨hanchored, hschemas, hmodels, hproperties, hbuilt⟩ := hkeeps
  exact ⟨hanchored, Nat.lt_of_lt_of_le h.schema hschemas, h.labels.keep hmodels hproperties hbuilt⟩

/-- Whatever a script does, its labels stand for what is there. -/
theorem Anchored.run (h : stage.Anchored s) (script : List Line) :
    (stage.run s script).Anchored s := by
  induction script generalizing stage with
  | nil => exact h
  | cons line script ih => exact ih (h.next line)

/-! ### Renaming -/

/-- Whether two stages are one, but for the numbers of properties. -/
structure Renamed (σ : Equiv.Perm PropertyId) (stage stage' : Stage) : Prop where
  graph : stage.graph.Renamed σ stage'.graph
  models : ∀ label, stage'.labels.models label = stage.labels.models label
  properties : ∀ label, stage'.labels.properties label = (stage.labels.properties label).map σ

namespace Renamed

theorem refl (stage : Stage) : stage.Renamed (.refl _) stage :=
  ⟨.refl _, fun _ => rfl, fun _ => Option.map_id'.symm⟩

/-- A line calls the same on both stages, but for the numbers of properties. -/
theorem call_eq (h : stage.Renamed σ stage') (command : Command) :
    command.call s stage'.labels = (command.call s stage.labels).map (WrittenCall.rename σ) := by
  cases command with
  | model name => rfl
  | find m name => rfl
  | field m name kind options =>
    rw [Command.call, Command.call, h.models, Option.map_map]
    rfl
  | typed m builder name options =>
    rw [Command.call, Command.call, h.models, Option.map_map]
    rfl
  | relation many m name target options =>
    rw [Command.call, Command.call, h.models, h.models]
    cases stage.labels.models m <;> cases stage.labels.models target <;> rfl
  | backlink m name source forward options =>
    rw [Command.call, Command.call, h.models, h.models, h.properties]
    cases stage.labels.models m <;> cases stage.labels.models source <;>
      cases stage.labels.properties forward <;> rfl

/-- A line looks up the same on both stages, but for its number. -/
theorem found_eq (h : stage.Renamed σ stage') (command : Command) :
    command.found stage' = (command.found stage).map (Built.rename σ) := by
  cases command with
  | find m name =>
    rw [Command.found, Command.found, h.models]
    cases stage.labels.models m with
    | none => rfl
    | some o =>
      simp only [Option.bind_some, h.graph.findProperty]
      rcases stage.graph.findProperty o name with fault | _ | _ | _ | _ | _ <;> rfl
  | model | field | typed | relation | backlink => rfl

/-- A line does the same on both stages, but for the numbers of properties. -/
theorem obey (h : stage.Renamed σ stage') (s : SchemaId) (command : Command) :
    (stage.obey s command).1.Renamed σ (stage'.obey s command).1 ∧
      (stage'.obey s command).2 = (stage.obey s command).2.map (Built.rename σ) := by
  have hcall' : command.call s stage'.labels = _ := h.call_eq command
  cases hcall : command.call s stage.labels with
  | none =>
    rw [hcall] at hcall'
    rw [obey_of_not_call hcall, obey_of_not_call hcall']
    exact ⟨h.graph, h.found_eq command⟩
  | some call =>
    rw [hcall] at hcall'
    obtain ⟨hgraph, hout⟩ := h.graph.perform call
    rw [obey_of_call hcall, obey_of_call hcall']
    refine ⟨hgraph, ?_⟩
    dsimp only
    rw [hout]
    cases (stage.graph.perform call).2 <;> rfl

/-- Each line keeps two stages renamed alike. -/
theorem next (h : stage.Renamed σ stage') (line : Line) :
    (stage.next s line).Renamed σ (stage'.next s line) := by
  obtain ⟨hgraph, hout⟩ := h.obey s line.command
  refine ⟨hgraph, ?_, ?_⟩
  · intro label
    simp only [Stage.next, Labels.keep, hout, h.models]
    rcases (stage.obey s line.command).2 with _ | ⟨m⟩ | ⟨p⟩ <;> rfl
  · intro label
    simp only [Stage.next, Labels.keep, hout, h.properties]
    rcases (stage.obey s line.command).2 with _ | ⟨m⟩ | ⟨p⟩ <;> split <;> rfl

/-- A script does not see numbers. -/
theorem run (h : stage.Renamed σ stage') (script : List Line) :
    (stage.run s script).Renamed σ (stage'.run s script) := by
  induction script generalizing stage stage' with
  | nil => exact h
  | cons line script ih => exact ih (h.next line)

end Renamed

/-! ### Two lines in either order -/

/-- A command does not notice a new property that it does not use. -/
theorem call_keep {labels : Labels} {label : String} {built : Option Built}
    (hbuilt : built.bind Built.model? = none) (hlabel : label ∉ command.uses) :
    command.call s (labels.keep label built) = command.call s labels := by
  have hmodels : (labels.keep label built).models = labels.models :=
    Labels.models_keep_of_none hbuilt
  cases command with
  | backlink m name source forward options =>
    have hforward : (labels.keep label built).properties forward = labels.properties forward :=
      if_neg fun heq => hlabel (List.mem_singleton.2 heq.symm)
    rw [Command.call, Command.call, hmodels, hforward]
  | model | find => rfl
  | field | typed | relation => rw [Command.call, Command.call, hmodels]

theorem buildsProperty_of_call (h : command.BuildsProperty)
    (hcall : command.call s stage.labels = some call) : call.BuildsProperty := by
  cases command with
  | model | find => exact h.elim
  | field | typed =>
    obtain ⟨o, -, rfl⟩ := Option.map_eq_some_iff.1 hcall
    trivial
  | relation =>
    obtain ⟨o, -, hcall⟩ := Option.bind_eq_some_iff.1 hcall
    obtain ⟨t, -, rfl⟩ := Option.map_eq_some_iff.1 hcall
    trivial
  | backlink =>
    obtain ⟨o, -, hcall⟩ := Option.bind_eq_some_iff.1 hcall
    obtain ⟨t, -, hcall⟩ := Option.bind_eq_some_iff.1 hcall
    obtain ⟨p, -, rfl⟩ := Option.map_eq_some_iff.1 hcall
    trivial

theorem found_eq_none (h : command.BuildsProperty) : command.found stage = none := by
  cases command with
  | model | find => exact h.elim
  | field | typed | relation | backlink => rfl

/-- A line that mentions what is not there changes nothing. -/
theorem next_eq_self (h : line.command.BuildsProperty)
    (hcall : line.command.call s stage.labels = none) : stage.next s line = stage := by
  rw [next, obey_of_not_call hcall, found_eq_none h, Labels.keep_none]

/-- A line that builds a property never comes to a model. -/
theorem model?_of_obey (h : stage.Anchored s) (hbuilds : command.BuildsProperty) :
    (stage.obey s command).2.bind Built.model? = none := by
  cases hcall : command.call s stage.labels with
  | none =>
    rw [obey_of_not_call hcall, found_eq_none hbuilds]
    rfl
  | some call =>
    rw [obey_of_call hcall]
    rcases call.idle_or_builds (h.known hcall) (buildsProperty_of_call hbuilds hcall) with
      ⟨fault, hidle⟩ | ⟨read, -, -, hbuild⟩
    · rw [hidle _ (.refl _)]
      rfl
    · dsimp only
      rw [(hbuild _ (.refl _)).1]
      rfl

/-- A line that builds a property leaves the calls as they are that do not use it. -/
theorem call_next (h : stage.Anchored s) (hbuilds : line.command.BuildsProperty)
    (hlabel : line.label ∉ command.uses) :
    command.call s (stage.next s line).labels = command.call s stage.labels :=
  call_keep (model?_of_obey h hbuilds) hlabel

/-- What a command leads to behind a line that builds a property which the command does not use. -/
theorem obey_next (h : stage.Anchored s) (hbuilds : line.command.BuildsProperty)
    (hlabel : line.label ∉ command.uses) {first second : WrittenCall}
    (hfirst : line.command.call s stage.labels = some first)
    (hsecond : command.call s stage.labels = some second) :
    (stage.next s line).obey s command =
      (((stage.graph.perform first).1.perform second).1,
        ((stage.graph.perform first).1.perform second).2.toOption) := by
  rw [obey_of_call ((call_next h hbuilds hlabel).trans hsecond), graph_next, obey_of_call hfirst]

/-- A line that builds a property leaves the labels of models as they are. -/
theorem models_next (h : stage.Anchored s) (hbuilds : line.command.BuildsProperty) :
    (stage.next s line).labels.models = stage.labels.models :=
  Labels.models_keep_of_none (model?_of_obey h hbuilds)

theorem toOption_map {ε α β : Type} (f : α → β) (out : Except ε α) :
    (out.map f).toOption = out.toOption.map f := by
  cases out <;> rfl

/-- If the objects that two lines build differ only in their numbers, and all that was there stands
for itself, then so does what is kept under any label. -/
theorem properties_swap (hlabel : a.label ≠ b.label)
    (hold : ∀ label p, stage.labels.properties label = some p → σ p = p)
    (houta : ((stage.next s b).obey s a.command).2 =
      (stage.obey s a.command).2.map (Built.rename σ))
    (houtb : (stage.obey s b.command).2 =
      ((stage.next s a).obey s b.command).2.map (Built.rename σ)) (label : String) :
    ((stage.next s b).next s a).labels.properties label =
      (((stage.next s a).next s b).labels.properties label).map σ := by
  have hrename : ∀ built : Option Built,
      (built.map (Built.rename σ)).bind Built.property? = (built.bind Built.property?).map σ := by
    rintro (_ | ⟨m⟩ | ⟨p⟩) <;> rfl
  -- what was kept before the two lines is the same in both orders
  have hfix : (stage.labels.properties label).map σ = stage.labels.properties label := by
    cases hp : stage.labels.properties label with
    | none => rfl
    | some p => exact congrArg some (hold label p hp)
  rw [properties_next, houta, hrename, properties_next, houtb, hrename, properties_next,
    properties_next]
  -- the label is that of one of the two lines, or of neither
  by_cases ha : label = a.label
  · rw [if_pos ha, if_neg (ha ▸ hlabel), if_neg (ha ▸ hlabel), if_pos ha, Option.map_or, hfix]
  · rw [if_neg ha, if_neg ha]
    split
    · rw [Option.map_or, hfix]
    · exact hfix.symm

/-- Whether two lines are independent at a stage: both build properties, neither uses what the other
builds, what they build is kept under different labels, and they append to different models. -/
structure Independent (stage : Stage) (s : SchemaId) (a b : Line) : Prop where
  buildsFirst : a.command.BuildsProperty
  buildsSecond : b.command.BuildsProperty
  labels : a.label ≠ b.label
  firstUnused : a.label ∉ b.command.uses
  secondUnused : b.label ∉ a.command.uses
  disjoint : ∀ m ∈ a.command.appendsTo s stage.labels, m ∉ b.command.appendsTo s stage.labels

/-- Independent lines can change places. -/
theorem swap (h : stage.Anchored s) (hab : stage.Independent s a b) :
    ∃ σ : Equiv.Perm PropertyId,
      ((stage.next s a).next s b).Renamed σ ((stage.next s b).next s a) := by
  obtain ⟨ha, hb, hlabel, hunuseda, hunusedb, hdisjoint⟩ := hab
  -- a line whose call is on nothing changes nothing, before the other line and behind it
  cases hcalla : a.command.call s stage.labels with
  | none =>
    rw [next_eq_self ha hcalla, next_eq_self ha ((call_next h hb hunusedb).trans hcalla)]
    exact ⟨_, .refl _⟩
  | some calla =>
    cases hcallb : b.command.call s stage.labels with
    | none =>
      rw [next_eq_self hb hcallb, next_eq_self hb ((call_next h ha hunuseda).trans hcallb)]
      exact ⟨_, .refl _⟩
    | some callb =>
      rw [Command.appendsTo, Command.appendsTo, hcalla, hcallb] at hdisjoint
      obtain ⟨σ, hold, hgraph, houta, houtb⟩ := Graph.perform_swap h.graph (h.known hcalla)
        (h.known hcallb) (buildsProperty_of_call ha hcalla) (buildsProperty_of_call hb hcallb)
        hdisjoint
      have hobeya := obey_next h hb hunusedb hcallb hcalla
      have hobeyb := obey_next h ha hunuseda hcalla hcallb
      refine ⟨σ, ?_, ?_, ?_⟩
      · rw [graph_next, graph_next, hobeya, hobeyb]
        exact hgraph
      · intro label
        rw [models_next (h.next b) ha, models_next h hb, models_next (h.next a) hb,
          models_next h ha]
      · refine properties_swap hlabel ?_ ?_ ?_
        · intro label p hp
          exact hold p (h.labels.properties label p hp)
        · rw [hobeya, obey_of_call hcalla, houta]
          exact toOption_map _ _
        · rw [hobeyb, obey_of_call hcallb, houtb]
          exact toOption_map _ _

/-- If independent lines of a script change places, the script leads to the same stage up to a
renaming. -/
theorem run_swap (h : stage.Anchored s) (before after : List Line)
    (hab : (stage.run s before).Independent s a b) :
    ∃ σ : Equiv.Perm PropertyId, (stage.run s (before ++ a :: b :: after)).Renamed σ
      (stage.run s (before ++ b :: a :: after)) := by
  obtain ⟨σ, hσ⟩ := swap (h.run before) hab
  refine ⟨σ, ?_⟩
  rw [run, run, List.foldl_append, List.foldl_append]
  exact hσ.run after

end Stage

end Script

end MobileSchema
