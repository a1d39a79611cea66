import EmbeddedPortfolio.Pipeline.Build

namespace EmbeddedPortfolio.Pipeline

open EmbeddedPortfolio.Program Builder

/-! What the object holds between its calls, and what it leaves behind. -/

def given (found : Bool) (resource : GstRef) : List GstRef :=
  if found then [resource] else []

/-- What the destructor gives back. -/
def Assembly.owned (assembly : Assembly) : List GstRef :=
  given assembly.watch .watch ++ given assembly.active .active ++
    assembly.children.map .element ++ given assembly.pipeline .pipeline

def Assembly.Coherent (assembly : Assembly) : Prop :=
  assembly.pipeline = false →
    assembly.watch = false ∧ assembly.active = false ∧ assembly.children = []

/-- What `owned` may hold. -/
def GstRef.isMember : GstRef → Bool
  | .pipeline => true
  | .active => true
  | .watch => true
  | .element _ => true
  | _ => false

/-- What others are made from. -/
def GstRef.isParent : GstRef → Bool
  | .pipeline => true
  | .sample => true
  | _ => false

/-- Between two calls, with the resources in `locals` that no member holds. -/
structure Stage (locals : List GstRef) (assembly : Assembly)
    (builder : Builder) : Prop where
  sound : builder.handles.Sound (locals ++ assembly.owned)
  assembly_eq : builder.assembly = assembly
  coherent : assembly.Coherent

/-- What an exception leaves behind that no member holds any more: the elements
made so far, which have no parent yet, and the pads of a tee branch. -/
def PipelineFailure.leaked : PipelineFailure → List GstRef
  | .make element _ => (Element.all.takeWhile (· ≠ element)).map .element
  | .teeBranch queueHead teePad queuePad =>
      given queuePad (.queuePad queueHead) ++ given teePad (.teePad queueHead)
  | _ => []

def Thrown (failure : PipelineFailure) (builder : Builder) : Prop :=
  Stage failure.leaked builder.assembly builder

section Calls

variable {locals : List GstRef} {assembly : Assembly} {builder : Builder}
variable {thrown : PipelineFailure → Builder → Prop}
variable {uses : List GstRef} {resource : GstRef}

theorem Stage.perm {other : List GstRef}
    (stage : Stage locals assembly builder) (same : locals.Perm other) :
    Stage other assembly builder where
  sound := stage.sound.perm (same.append_right _)
  assembly_eq := stage.assembly_eq
  coherent := stage.coherent

theorem Stage.here (stage : Stage locals assembly builder) :
    Stage locals builder.assembly builder := by
  obtain ⟨sound, rfl, coherent⟩ := stage
  exact ⟨sound, rfl, coherent⟩

theorem Stage.acquire (stage : Stage locals assembly builder)
    (fresh : resource ∉ locals ++ assembly.owned) :
    Stage (resource :: locals) assembly (builder.acquire resource) where
  sound := stage.sound.acquire fresh
  assembly_eq := stage.assembly_eq
  coherent := stage.coherent

/-- Nothing else is made from what is given back. -/
def Last (resource : GstRef) (owned : List GstRef) : Prop :=
  ∀ other ∈ resource :: owned, GstRef.madeFrom other resource = false

theorem last_of_childless {owned : List GstRef}
    (childless : resource.isParent = false) : Last resource owned := by
  intro other _
  cases resource with
  | pipeline | sample => cases childless
  | _ => cases other <;> rfl

theorem unowned (outside : resource.isMember = false) :
    resource ∉ assembly.owned := by
  intro member
  unfold Assembly.owned given at member
  simp only [List.mem_append, List.mem_map, List.mem_ite_nil_right,
    List.mem_singleton] at member
  rcases member with
    ((⟨_, rfl⟩ | ⟨_, rfl⟩) | ⟨_, _, rfl⟩) | ⟨_, rfl⟩ <;> cases outside

theorem fresh_of (unheld : resource ∉ locals)
    (outside : resource.isMember = false) :
    resource ∉ locals ++ assembly.owned :=
  fun member => (List.mem_append.mp member).elim unheld (unowned outside)

theorem Stage.free (stage : Stage (resource :: locals) assembly builder)
    (last : Last resource (locals ++ assembly.owned)) :
    Stage locals assembly (builder.free resource) where
  sound := stage.sound.free
    (fun other held => last other (List.mem_cons_of_mem _ held))
    (last resource List.mem_cons_self)
  assembly_eq := stage.assembly_eq
  coherent := stage.coherent

theorem invoke_stage (held : uses ⊆ locals ++ assembly.owned) :
    Exceptional.Triple (Stage locals assembly) (invoke uses)
      (fun _ => Stage locals assembly) thrown :=
  Exceptional.Triple.call fun _ stage =>
    ⟨stage.sound.use fun _ member => held member, stage.assembly_eq,
      stage.coherent⟩

theorem touch_stage {change : Assembly → Assembly}
    (held : uses ⊆ locals ++ assembly.owned)
    (owned : (change assembly).owned = assembly.owned)
    (coherent : assembly.Coherent → (change assembly).Coherent) :
    Exceptional.Triple (Stage locals assembly) (touch uses change)
      (fun _ => Stage locals (change assembly)) thrown := by
  apply Exceptional.Triple.update
  intro builder stage
  constructor
  · rw [owned]
    exact stage.sound.use fun _ member => held member
  · exact congrArg change stage.assembly_eq
  · exact coherent stage.coherent

theorem fetch_stage (held : uses ⊆ locals ++ assembly.owned)
    (fresh : resource ∉ locals ++ assembly.owned) :
    Exceptional.Triple (Stage locals assembly) (fetch uses resource)
      (fun found => Stage (given found resource ++ locals) assembly)
      thrown := by
  apply Exceptional.Triple.bind _ (invoke_stage held)
  intro found
  cases found with
  | false => exact Exceptional.Triple.pure fun _ stage => stage
  | true =>
      apply Exceptional.Triple.bind fun _ => Stage (resource :: locals) assembly
      · exact Exceptional.Triple.update fun _ stage => stage.acquire fresh
      · exact fun _ => Exceptional.Triple.pure fun _ stage => stage

theorem free_stage (last : Last resource (locals ++ assembly.owned)) :
    Exceptional.Triple (Stage (resource :: locals) assembly)
      (Exceptional.update (Builder.free resource))
      (fun _ => Stage locals assembly) thrown :=
  Exceptional.Triple.update fun _ stage => stage.free last

theorem giveBack_stage {found : Bool}
    (last : Last resource (locals ++ assembly.owned)) :
    Exceptional.Triple (Stage (given found resource ++ locals) assembly)
      (giveBack found resource) (fun _ => Stage locals assembly) thrown := by
  cases found with
  | false => exact Exceptional.Triple.pure fun _ stage => stage
  | true => exact free_stage last

theorem borrow_stage {body : BuilderM Unit}
    (held : uses ⊆ locals ++ assembly.owned)
    (fresh : resource ∉ locals ++ assembly.owned)
    (last : Last resource (locals ++ assembly.owned))
    (within : Exceptional.Triple (Stage (resource :: locals) assembly) body
      (fun _ => Stage (resource :: locals) assembly) thrown) :
    Exceptional.Triple (Stage locals assembly) (borrow uses resource body)
      (fun _ => Stage locals assembly) thrown := by
  apply Exceptional.Triple.bind _ (fetch_stage held fresh)
  intro found
  cases found with
  | false => exact Exceptional.Triple.pure fun _ stage => stage
  | true =>
      apply Exceptional.Triple.bind _ within
      intro _
      apply Exceptional.Triple.bind _ (free_stage last)
      exact fun _ => Exceptional.Triple.pure fun _ stage => stage

end Calls

/-! The graph, part by part. -/

namespace Assembly

def selected (factory : String) : Assembly :=
  { new with encoderFactory := factory }

def started (factory : String) : Assembly :=
  { selected factory with pipeline := true }

def source (cfg : BuildConfig) (assembly : Assembly) : Assembly :=
  (assembly.set .cam
    [("device", .text cfg.device), ("io-mode", .int 2)]).set .srccaps
      [("caps", srcCaps cfg)]

def connect (sink : Element) (assembly : Assembly) : Assembly :=
  { assembly with connected := assembly.connected ++ [sink] }

def encoderBranch (cfg : BuildConfig) (assembly : Assembly) : Assembly :=
  (((((assembly.set .encQ (queueProperties 8)).set .enc
    (encoderProperties cfg assembly.encoderFactory)).set .encParse
      [("config-interval", .int (-1))]).set .encSink
        (sinkProperties false 8)).set .encSink
          [("caps", encCaps)]).connect .encSink

def rawBranch (assembly : Assembly) : Assembly :=
  (((assembly.set .rawQ (queueProperties 4)).set .rawCaps
    [("caps", rawCaps)]).set .rawSink (sinkProperties true 2)).connect .rawSink

def addAll (assembly : Assembly) : Assembly :=
  { assembly with children := assembly.children ++ Element.all }

def linkAll (links : List (Element × Element)) (assembly : Assembly) :
    Assembly :=
  { assembly with links := assembly.links ++ links }

end Assembly

section Build

variable {locals : List GstRef} {assembly : Assembly} {builder : Builder}
variable {thrown : PipelineFailure → Builder → Prop}

theorem new_coherent : Assembly.new.Coherent :=
  fun _ => ⟨rfl, rfl, rfl⟩

theorem started_coherent (factory : String) :
    (Assembly.started factory).Coherent :=
  nofun

theorem factoryExists_stage :
    Exceptional.Triple (Stage [] assembly) factoryExists
      (fun _ => Stage [] assembly) thrown := by
  apply borrow_stage (List.nil_subset _) (fresh_of List.not_mem_nil rfl)
    (last_of_childless rfl)
  exact Exceptional.Triple.pure fun _ stage => stage

theorem selectEncoder_stage (encoder : Encoder) :
    Exceptional.Triple (Stage [] Assembly.new) (selectEncoder encoder)
      (fun _ builder => ∃ factory, Stage [] (Assembly.selected factory) builder)
      Thrown := by
  apply Exceptional.Triple.bind fun _ => Stage [] Assembly.new
  · cases encoder with
    | auto =>
        apply Exceptional.Triple.bind _ factoryExists_stage
        exact fun _ => Exceptional.Triple.pure fun _ stage => stage
    | v4l2H264 => exact Exceptional.Triple.pure fun _ stage => stage
    | x264 => exact Exceptional.Triple.pure fun _ stage => stage
  intro factory
  apply Exceptional.Triple.bind fun _ => Stage [] (Assembly.selected factory)
  · apply Exceptional.Triple.update
    intro builder stage
    refine ⟨stage.sound, ?_, fun _ => ⟨rfl, rfl, rfl⟩⟩
    exact congrArg
      (fun assembly => { assembly with encoderFactory := factory })
      stage.assembly_eq
  intro _
  apply Exceptional.Triple.bind _ factoryExists_stage
  intro found
  apply Exceptional.Triple.ite
  · exact fun _ => Exceptional.Triple.pure fun _ stage => ⟨factory, stage⟩
  · exact fun _ => Exceptional.Triple.fail fun _ stage => stage.here

theorem newPipeline_stage (factory : String) :
    Exceptional.Triple (Stage [] (Assembly.selected factory)) newPipeline
      (fun _ => Stage [] (Assembly.started factory)) Thrown := by
  apply Exceptional.Triple.bind _ (invoke_stage (List.nil_subset _))
  intro found
  apply Exceptional.Triple.ite
  · intro _
    apply Exceptional.Triple.update
    intro builder stage
    have hfresh : .pipeline ∉ [] ++ (Assembly.selected factory).owned :=
      List.not_mem_nil
    refine ⟨(stage.acquire hfresh).sound, ?_, started_coherent factory⟩
    exact congrArg (fun assembly => { assembly with pipeline := true })
      stage.assembly_eq
  · exact fun _ => Exceptional.Triple.fail fun _ stage => stage.here

/-- The elements made so far. -/
def made (elements : List Element) : List GstRef :=
  elements.map .element

theorem outside_made {elements : List Element} {resource : GstRef}
    (outside : resource.isMember = false) : resource ∉ made elements := by
  intro member
  obtain ⟨_, _, rfl⟩ := List.mem_map.mp member
  cases outside

theorem mem_made {element : Element} {elements : List Element} :
    .element element ∈ made elements ↔ element ∈ elements := by
  simp [made]

theorem element_owned {element : Element} :
    .element element ∈ assembly.owned ↔ element ∈ assembly.children := by
  unfold Assembly.owned given
  split <;> split <;> split <;> simp

theorem takeWhile_made {before after : List Element} {element : Element}
    (all : Element.all = before ++ element :: after) :
    Element.all.takeWhile (· ≠ element) = before := by
  have hnodup : (before ++ element :: after).Nodup := all ▸ (by decide)
  have hfresh : ∀ other ∈ before, decide (other ≠ element) = true := by
    intro other member
    rw [decide_eq_true_eq]
    rintro rfl
    exact (List.nodup_append.mp hnodup).2.2 other member other
      List.mem_cons_self rfl
  rw [all, List.takeWhile_append_of_pos hfresh,
    List.takeWhile_cons_of_neg (by simp), List.append_nil]

/-- One `make` of the twelve; what was made before it leaks if it fails. -/
theorem make_stage (before after : List Element) {element : Element}
    (all : Element.all = before ++ element :: after)
    (orphans : assembly.children = []) :
    Exceptional.Triple (Stage (made before) assembly) (make element)
      (fun _ => Stage (made (before ++ [element])) assembly) Thrown := by
  apply Exceptional.Triple.bind fun _ => Stage (made before) assembly
  · exact Exceptional.Triple.observe fun _ stage => stage
  intro factory
  apply Exceptional.Triple.bind _ (invoke_stage (List.nil_subset _))
  intro found
  apply Exceptional.Triple.ite
  · intro _
    apply Exceptional.Triple.update
    intro builder stage
    have hfresh : .element element ∉ made before ++ assembly.owned := by
      have hnodup : (before ++ element :: after).Nodup := all ▸ (by decide)
      rw [List.mem_append, mem_made, element_owned, orphans]
      rintro (hbefore | hnone)
      · exact (List.nodup_append.mp hnodup).2.2 element hbefore element
          List.mem_cons_self rfl
      · exact List.not_mem_nil hnone
    apply (stage.acquire hfresh).perm
    unfold made
    rw [List.map_append]
    exact (List.perm_append_singleton _ _).symm
  · intro _
    apply Exceptional.Triple.fail
    intro builder stage
    have hleaked : (PipelineFailure.make element factory).leaked =
        made before :=
      congrArg made (takeWhile_made all)
    unfold Thrown
    rw [hleaked]
    exact stage.here

theorem makeAll_stage (before after : List Element) {group : List Element}
    (all : Element.all = before ++ group ++ after)
    (orphans : assembly.children = []) :
    Exceptional.Triple (Stage (made before) assembly)
      (Exceptional.forEach make group)
      (fun _ => Stage (made (before ++ group)) assembly) Thrown := by
  induction group generalizing before with
  | nil =>
      rw [List.append_nil]
      exact Exceptional.Triple.pure fun _ stage => stage
  | cons element rest induction =>
      apply Exceptional.Triple.bind _
        (make_stage before (rest ++ after) (by simpa using all) orphans)
      intro _
      have hrest := induction (before ++ [element]) (by simpa using all)
      rwa [List.append_assoc, List.singleton_append] at hrest

theorem set_stage {element : Element} (properties : List (String × Property))
    (held : .element element ∈ locals) :
    Exceptional.Triple (Stage locals assembly) (Builder.set element properties)
      (fun _ => Stage locals (assembly.set element properties)) thrown := by
  apply touch_stage
  · exact List.cons_subset.mpr
      ⟨List.mem_append_left _ held, List.nil_subset _⟩
  · rfl
  · exact fun coherent => coherent

theorem setFrom_stage {resource : GstRef} {element : Element}
    (properties : List (String × Property))
    (held : .element element ∈ locals)
    (fresh : resource ∉ locals ++ assembly.owned)
    (childless : resource.isParent = false) :
    Exceptional.Triple (Stage locals assembly)
      (setFrom resource element properties)
      (fun _ => Stage locals (assembly.set element properties)) thrown := by
  apply Exceptional.Triple.bind fun _ => Stage (resource :: locals) assembly
  · exact Exceptional.Triple.update fun _ stage => stage.acquire fresh
  intro _
  apply Exceptional.Triple.bind fun _ =>
    Stage (resource :: locals) (assembly.set element properties)
  · apply touch_stage
    · exact List.cons_subset.mpr ⟨List.mem_append_left _
        (List.mem_cons_of_mem _ held), List.cons_subset.mpr
          ⟨List.mem_cons_self, List.nil_subset _⟩⟩
    · rfl
    · exact fun coherent => coherent
  · exact fun _ => free_stage (last_of_childless childless)

theorem connect_stage {sink : Element} (held : .element sink ∈ locals) :
    Exceptional.Triple (Stage locals assembly) (Builder.connect sink)
      (fun _ => Stage locals (assembly.connect sink)) thrown := by
  apply touch_stage
  · exact List.cons_subset.mpr
      ⟨List.mem_append_left _ held, List.nil_subset _⟩
  · rfl
  · exact fun coherent => coherent

/-- The members while the elements are made. -/
structure Fresh (assembly : Assembly) : Prop where
  started : assembly.pipeline = true
  watch : assembly.watch = false
  active : assembly.active = false
  orphans : assembly.children = []

theorem Fresh.owned (isFresh : Fresh assembly) :
    assembly.owned = [.pipeline] := by
  unfold Assembly.owned given
  rw [isFresh.started, isFresh.watch, isFresh.active, isFresh.orphans]
  rfl

theorem buildSource_stage (cfg : BuildConfig) (isFresh : Fresh assembly) :
    Exceptional.Triple (Stage [] assembly) (buildSource cfg)
      (fun _ => Stage (made [.cam, .srccaps, .t]) (assembly.source cfg))
      Thrown := by
  apply Exceptional.Triple.bind _ (makeAll_stage [] (Element.all.drop 3)
    rfl isFresh.orphans)
  intro _
  apply Exceptional.Triple.bind _
    (set_stage _ (mem_made.mpr List.mem_cons_self))
  intro _
  exact setFrom_stage _ (mem_made.mpr (by decide))
    (fresh_of (outside_made rfl) rfl) rfl

theorem setEncoder_stage (cfg : BuildConfig)
    {elements : List Element} (held : .enc ∈ elements) :
    Exceptional.Triple (Stage (made elements) assembly) (setEncoder cfg)
      (fun _ => Stage (made elements) (assembly.set .enc
        (encoderProperties cfg assembly.encoderFactory))) thrown := by
  apply Exceptional.Triple.bind fun factory builder =>
    factory = assembly.encoderFactory ∧
      Stage (made elements) assembly builder
  · exact Exceptional.Triple.observe fun _ stage =>
      ⟨congrArg Assembly.encoderFactory stage.assembly_eq, stage⟩
  intro factory
  apply Exceptional.Triple.assume
  rintro rfl
  apply Exceptional.Triple.ite
  · exact fun _ => set_stage _ (mem_made.mpr held)
  · exact fun _ => setFrom_stage _ (mem_made.mpr held)
      (fresh_of (outside_made rfl) rfl) rfl

theorem buildEncoderBranch_stage (cfg : BuildConfig)
    (isFresh : Fresh assembly) :
    Exceptional.Triple (Stage (made [.cam, .srccaps, .t]) assembly)
      (buildEncoderBranch cfg)
      (fun _ => Stage (made (Element.all.take 8)) (assembly.encoderBranch cfg))
      Thrown := by
  apply Exceptional.Triple.bind _ (makeAll_stage [.cam, .srccaps, .t]
    (Element.all.drop 8) rfl isFresh.orphans)
  intro _
  apply Exceptional.Triple.bind _ (set_stage _ (mem_made.mpr (by decide)))
  intro _
  apply Exceptional.Triple.bind _
    (setEncoder_stage cfg (by decide))
  intro _
  apply Exceptional.Triple.bind _ (set_stage _ (mem_made.mpr (by decide)))
  intro _
  apply Exceptional.Triple.bind _ (set_stage _ (mem_made.mpr (by decide)))
  intro _
  apply Exceptional.Triple.bind _ (setFrom_stage _ (mem_made.mpr (by decide))
    (fresh_of (outside_made rfl) rfl) rfl)
  exact fun _ => connect_stage (mem_made.mpr (by decide))

theorem buildRawBranch_stage (isFresh : Fresh assembly) :
    Exceptional.Triple (Stage (made (Element.all.take 8)) assembly)
      buildRawBranch
      (fun _ => Stage (made Element.all) assembly.rawBranch) Thrown := by
  apply Exceptional.Triple.bind _ (makeAll_stage (Element.all.take 8) []
    rfl isFresh.orphans)
  intro _
  apply Exceptional.Triple.bind _ (set_stage _ (mem_made.mpr (by decide)))
  intro _
  apply Exceptional.Triple.bind _ (setFrom_stage _ (mem_made.mpr (by decide))
    (fresh_of (outside_made rfl) rfl) rfl)
  intro _
  apply Exceptional.Triple.bind _ (set_stage _ (mem_made.mpr (by decide)))
  exact fun _ => connect_stage (mem_made.mpr (by decide))

theorem addMany_stage (isFresh : Fresh assembly) :
    Exceptional.Triple (Stage (made Element.all) assembly)
      (addMany Element.all) (fun _ => Stage [] assembly.addAll) thrown := by
  apply Exceptional.Triple.update
  intro builder stage
  have howned : assembly.addAll.owned = made Element.all ++ [.pipeline] := by
    unfold Assembly.owned Assembly.addAll given made
    simp only [isFresh.started, isFresh.watch, isFresh.active, isFresh.orphans]
    rfl
  have hsound := stage.sound
  rw [isFresh.owned] at hsound
  constructor
  · rw [List.nil_append, howned]
    apply hsound.use
    intro resource member
    rcases List.mem_cons.mp member with rfl | hmade
    · exact List.mem_append_right _ List.mem_cons_self
    · exact List.mem_append_left _ hmade
  · exact congrArg Assembly.addAll stage.assembly_eq
  · exact fun none => absurd (isFresh.started.symm.trans none) nofun

/-- The members once every element is in the bin. -/
structure Filled (assembly : Assembly) : Prop where
  started : assembly.pipeline = true
  children : assembly.children = Element.all

theorem Filled.holds (filled : Filled assembly) (element : Element) :
    .element element ∈ assembly.owned := by
  rw [element_owned, filled.children]
  cases element <;> decide

theorem Filled.holds_pipeline (filled : Filled assembly) :
    .pipeline ∈ assembly.owned := by
  unfold Assembly.owned given
  simp [filled.started]

theorem Filled.coherent (filled : Filled assembly) : assembly.Coherent :=
  fun none => absurd (filled.started.symm.trans none) nofun

theorem Filled.linkAll (filled : Filled assembly)
    (links : List (Element × Element)) : Filled (assembly.linkAll links) :=
  ⟨filled.started, filled.children⟩

theorem Filled.link (filled : Filled assembly) (first second : Element) :
    Filled (assembly.link first second) :=
  ⟨filled.started, filled.children⟩

theorem link_stage {first second : Element} :
    Exceptional.Triple (Stage locals assembly)
      (Exceptional.update (assemble (Assembly.link first second)))
      (fun _ => Stage locals (assembly.link first second)) thrown :=
  Exceptional.Triple.update fun _ stage =>
    ⟨stage.sound, congrArg (Assembly.link first second) stage.assembly_eq,
      stage.coherent⟩

theorem linkPairs_stage (filled : Filled assembly) (what : String)
    (links : List (Element × Element)) :
    Exceptional.Triple (Stage [] assembly) (linkPairs what links)
      (fun _ => Stage [] (assembly.linkAll links)) Thrown := by
  apply (Exceptional.Triple.forEach_done
    (fun done => Stage [] (assembly.linkAll done)) _ links).weaken
  · intro builder stage
    exact ⟨stage.sound, by simp [Assembly.linkAll, stage.assembly_eq],
      filled.coherent⟩
  · exact fun _ _ stage => stage
  · exact fun _ _ stage => stage
  · intro done pair
    apply Exceptional.Triple.bind _ (invoke_stage _)
    · intro linked
      apply Exceptional.Triple.ite
      · intro _
        have hnext : assembly.linkAll (done ++ [pair]) =
            (assembly.linkAll done).link pair.1 pair.2 := by
          simp [Assembly.linkAll, Assembly.link]
        rw [hnext]
        exact link_stage
      · exact fun _ => Exceptional.Triple.fail fun _ stage => stage.here
    · intro resource member
      rcases List.mem_cons.mp member with rfl | member
      · exact filled.holds pair.1
      · rw [List.mem_singleton.mp member]
        exact filled.holds pair.2

theorem given_subset (found : Bool) (resource : GstRef) :
    given found resource ⊆ [resource] := by
  cases found with
  | false => exact List.nil_subset _
  | true => exact List.Subset.refl _

theorem padsLink_stage (queueHead : Element) (teePad queuePad : Bool) :
    Exceptional.Triple
      (Stage (given queuePad (.queuePad queueHead) ++
        given teePad (.teePad queueHead)) assembly)
      (padsLink queueHead teePad queuePad)
      (fun linked builder => (linked = true → teePad = true ∧ queuePad = true) ∧
        Stage (given queuePad (.queuePad queueHead) ++
          given teePad (.teePad queueHead)) assembly builder) thrown := by
  apply Exceptional.Triple.ite
  · intro hboth
    obtain ⟨htee, hqueue⟩ := Bool.and_eq_true_iff.mp hboth
    apply (invoke_stage _).weaken (fun _ stage => stage)
    · exact fun _ _ stage => ⟨fun _ => ⟨htee, hqueue⟩, stage⟩
    · exact fun _ _ holds => holds
    · rw [htee, hqueue]
      simp [given]
  · exact fun _ => Exceptional.Triple.pure fun _ stage => ⟨nofun, stage⟩

theorem linkTeeBranch_stage (filled : Filled assembly) (queueHead : Element) :
    Exceptional.Triple (Stage [] assembly) (linkTeeBranch queueHead)
      (fun _ => Stage [] (assembly.link .t queueHead)) Thrown := by
  have hwithin : ∀ element locals, [GstRef.element element] ⊆
      locals ++ assembly.owned := fun element locals =>
    List.cons_subset.mpr ⟨List.mem_append_right _ (filled.holds element),
      List.nil_subset _⟩
  apply Exceptional.Triple.bind _ (fetch_stage (hwithin _ _)
    (fresh_of List.not_mem_nil rfl))
  intro teePad
  apply Exceptional.Triple.bind fun queuePad =>
    Stage (given queuePad (.queuePad queueHead) ++
      given teePad (.teePad queueHead)) assembly
  · rw [List.append_nil]
    apply fetch_stage (hwithin _ _) (fresh_of _ rfl)
    exact fun member => nomatch List.mem_singleton.mp (given_subset _ _ member)
  intro queuePad
  apply Exceptional.Triple.bind _ (padsLink_stage queueHead teePad queuePad)
  intro linked
  apply Exceptional.Triple.assume
  intro hpads
  apply Exceptional.Triple.ite
  · intro hlinked
    obtain ⟨rfl, rfl⟩ := hpads hlinked
    apply Exceptional.Triple.bind _ link_stage
    intro _
    apply Exceptional.Triple.bind _ (free_stage (last_of_childless rfl))
    exact fun _ => free_stage (last_of_childless rfl)
  · exact fun _ => Exceptional.Triple.fail fun _ stage => stage.here

def Assembly.watched (watch : Bool) (assembly : Assembly) : Assembly :=
  { assembly with watch := watch }

theorem addWatch_stage (filled : Filled assembly)
    (unwatched : assembly.watch = false) :
    Exceptional.Triple (Stage [] assembly) addWatch
      (fun _ builder => ∃ watch, Stage [] (assembly.watched watch) builder)
      thrown := by
  have hpipeline : [GstRef.pipeline] ⊆ [] ++ assembly.owned :=
    List.cons_subset.mpr ⟨filled.holds_pipeline, List.nil_subset _⟩
  apply Exceptional.Triple.bind _ (touch_stage hpipeline rfl id)
  intro _
  apply Exceptional.Triple.bind fun _ => Stage [.bus] assembly
  · exact Exceptional.Triple.update fun _ stage =>
      stage.acquire (fresh_of List.not_mem_nil rfl)
  intro _
  apply Exceptional.Triple.bind _ (invoke_stage (by simp))
  intro added
  apply Exceptional.Triple.bind fun _ => Stage [.bus] (assembly.watched added)
  · apply Exceptional.Triple.update
    intro builder stage
    have hsame : assembly.watched false = assembly := by
      rw [← unwatched]
      rfl
    cases added with
    | false =>
        rw [hsame]
        exact stage
    | true =>
        have howned : (assembly.watched true).owned =
            .watch :: assembly.owned := by
          unfold Assembly.owned Assembly.watched given
          rw [unwatched]
          rfl
        have hfresh : .watch ∉ [GstRef.bus] ++ assembly.owned := by
          unfold Assembly.owned given
          rw [unwatched, filled.children, filled.started]
          cases assembly.active <;> decide
        constructor
        · rw [howned]
          exact (stage.acquire hfresh).sound.perm List.perm_middle.symm
        · exact congrArg (Assembly.watched true) stage.assembly_eq
        · exact Filled.coherent ⟨filled.started, filled.children⟩
  intro _
  apply (free_stage (last_of_childless rfl)).weaken (fun _ stage => stage)
  · exact fun _ _ stage => ⟨added, stage⟩
  · exact fun _ _ holds => holds

/-- What `build` leaves when it returns. -/
def assembled (cfg : BuildConfig) (factory : String) (watch : Bool) :
    Assembly :=
  ((((((((Assembly.started factory).source cfg).encoderBranch
    cfg).rawBranch.addAll.linkAll (pairs [.cam, .srccaps, .t])).linkAll
      (pairs [.encQ, .encCvt, .enc, .encParse, .encSink])).linkAll
        (pairs [.rawQ, .rawCvt, .rawCaps, .rawSink])).link .t .encQ).link .t
          .rawQ).watched watch

theorem linkAll_stage (filled : Filled assembly) :
    Exceptional.Triple (Stage [] assembly) Builder.linkAll
      (fun _ => Stage [] (((((assembly.linkAll
        (pairs [.cam, .srccaps, .t])).linkAll
          (pairs [.encQ, .encCvt, .enc, .encParse, .encSink])).linkAll
            (pairs [.rawQ, .rawCvt, .rawCaps, .rawSink])).link .t .encQ).link
              .t .rawQ)) Thrown := by
  have hsource := filled.linkAll (pairs [.cam, .srccaps, .t])
  have hencoder := hsource.linkAll
    (pairs [.encQ, .encCvt, .enc, .encParse, .encSink])
  have hraw := hencoder.linkAll (pairs [.rawQ, .rawCvt, .rawCaps, .rawSink])
  apply Exceptional.Triple.bind _ (linkPairs_stage filled _ _)
  intro _
  apply Exceptional.Triple.bind _ (linkPairs_stage hsource _ _)
  intro _
  apply Exceptional.Triple.bind _ (linkPairs_stage hencoder _ _)
  intro _
  apply Exceptional.Triple.bind _ (linkTeeBranch_stage hraw .encQ)
  intro _
  exact linkTeeBranch_stage (hraw.link .t .encQ) .rawQ

theorem build_stage (cfg : BuildConfig) :
    Exceptional.Triple (Stage [] Assembly.new) (build cfg)
      (fun _ builder => ∃ factory watch,
        Stage [] (assembled cfg factory watch) builder) Thrown := by
  apply Exceptional.Triple.bind _ (selectEncoder_stage cfg.encoder)
  intro _
  apply Exceptional.Triple.anySuch
  intro factory
  apply Exceptional.Triple.bind _ (newPipeline_stage factory)
  intro _
  apply Exceptional.Triple.bind _
    (buildSource_stage cfg ⟨rfl, rfl, rfl, rfl⟩)
  intro _
  apply Exceptional.Triple.bind _
    (buildEncoderBranch_stage cfg ⟨rfl, rfl, rfl, rfl⟩)
  intro _
  apply Exceptional.Triple.bind _
    (buildRawBranch_stage ⟨rfl, rfl, rfl, rfl⟩)
  intro _
  apply Exceptional.Triple.bind _ (addMany_stage ⟨rfl, rfl, rfl, rfl⟩)
  intro _
  apply Exceptional.Triple.bind _ (linkAll_stage ⟨rfl, rfl⟩)
  intro _
  apply (addWatch_stage ⟨rfl, rfl⟩ rfl).weaken (fun _ stage => stage)
  · rintro _ _ ⟨watch, stage⟩
    exact ⟨factory, watch, stage⟩
  · exact fun _ _ holds => holds

end Build

/-! The methods and callbacks of a pipeline that is built. -/

section Uses

variable {locals : List GstRef} {assembly : Assembly} {builder : Builder}
variable {thrown : PipelineFailure → Builder → Prop}

def Live (builder : Builder) : Prop :=
  ∃ assembly, Filled assembly ∧ Stage [] assembly builder

theorem live_of_stage {program : BuilderM Unit} {next : Assembly → Assembly}
    (keeps : ∀ assembly, Filled assembly → Filled (next assembly))
    (triple : ∀ assembly, Filled assembly →
      Exceptional.Triple (Stage [] assembly) program
        (fun _ => Stage [] (next assembly)) Thrown) :
    Exceptional.Triple Live program (fun _ => Live) Thrown := by
  apply Exceptional.Triple.anySuch
  intro assembly
  apply Exceptional.Triple.assume
  intro filled
  apply (triple assembly filled).weaken (fun _ stage => stage)
  · exact fun _ _ stage => ⟨next assembly, keeps assembly filled, stage⟩
  · exact fun _ _ holds => holds

theorem discard {before after : Builder → Prop} {Value : Type}
    {program : BuilderM Value}
    (triple : Exceptional.Triple before program (fun _ => after) thrown) :
    Exceptional.Triple before
      (do
        let _ ← program
        pure ()) (fun _ => after) thrown :=
  Exceptional.Triple.bind _ triple fun _ =>
    Exceptional.Triple.pure fun _ holds => holds

def Assembly.play (assembly : Assembly) : Assembly :=
  { assembly with active := true }

def Assembly.halt (assembly : Assembly) : Assembly :=
  { assembly with active := false, closed := true }

theorem play_owned (idle : assembly.active = false) :
    (.active :: assembly.owned).Perm assembly.play.owned := by
  unfold Assembly.owned Assembly.play
  simp only [idle, given, List.append_assoc]
  exact List.perm_middle.symm

theorem halt_owned (active : assembly.active = true) :
    assembly.owned.Perm (.active :: assembly.halt.owned) := by
  unfold Assembly.owned Assembly.halt
  simp only [active, given, List.append_assoc]
  exact List.perm_middle

theorem Filled.play (filled : Filled assembly) : Filled assembly.play :=
  ⟨filled.started, filled.children⟩

theorem start_stage (filled : Filled assembly) :
    Exceptional.Triple (Stage [] assembly) Builder.start
      (fun _ => Stage [] assembly.play) Thrown := by
  apply Exceptional.Triple.bind fun _ => Stage [] assembly.play
  · apply Exceptional.Triple.update
    intro builder stage
    rw [stage.assembly_eq]
    split
    · next hactive =>
        have hsame : assembly.play = assembly := by
          unfold Assembly.play
          rw [← hactive]
        rw [hsame]
        exact stage
    · next hidle =>
        rw [Bool.not_eq_true] at hidle
        have hfresh : .active ∉ [] ++ assembly.owned := by
          unfold Assembly.owned given
          rw [hidle, filled.children, filled.started]
          cases assembly.watch <;> decide
        exact ⟨(stage.acquire hfresh).sound.perm (play_owned hidle),
          congrArg Assembly.play stage.assembly_eq, filled.play.coherent⟩
  intro _
  apply Exceptional.Triple.bind _ (invoke_stage _)
  · intro playing
    apply Exceptional.Triple.ite
    · exact fun _ => Exceptional.Triple.pure fun _ stage => stage
    · exact fun _ => Exceptional.Triple.fail fun _ stage => stage.here
  · exact List.cons_subset.mpr
      ⟨filled.play.holds_pipeline, List.nil_subset _⟩

/-- The members behind `stop`, which returns at once without a pipeline. -/
def Assembly.stopped (assembly : Assembly) : Assembly :=
  if assembly.pipeline then assembly.halt else assembly

theorem stop_stage :
    Exceptional.Triple (Stage locals assembly) Builder.stop
      (fun _ => Stage locals assembly.stopped) thrown := by
  apply Exceptional.Triple.update
  intro builder stage
  unfold Assembly.stopped
  rw [stage.assembly_eq]
  split
  · next hpipeline =>
      have hcoherent : assembly.halt.Coherent := fun none =>
        absurd (hpipeline.symm.trans none) nofun
      have hheld : ∀ resource ∈ [GstRef.pipeline],
          resource ∈ locals ++ assembly.owned := by
        unfold Assembly.owned given
        simp [hpipeline]
      have hused := stage.sound.use hheld
      cases hactive : assembly.active with
      | false =>
          have howned : assembly.halt.owned = assembly.owned := by
            unfold Assembly.owned Assembly.halt
            simp only [hactive]
          dsimp only
          rw [if_neg Bool.false_ne_true]
          exact ⟨howned ▸ hused, rfl, hcoherent⟩
      | true =>
          have hsplit := hused.perm
            (((halt_owned hactive).append_left locals).trans List.perm_middle)
          dsimp only
          rw [if_pos rfl]
          refine ⟨hsplit.free ?_ rfl, rfl, hcoherent⟩
          exact fun other _ => by cases other <;> rfl
  · exact stage

theorem Filled.stopped (filled : Filled assembly) :
    Filled assembly.stopped := by
  unfold Assembly.stopped
  rw [if_pos filled.started]
  exact ⟨filled.started, filled.children⟩

theorem Filled.lends (filled : Filled assembly) (element : Element) :
    [.element element] ⊆ locals ++ assembly.owned :=
  List.cons_subset.mpr
    ⟨List.mem_append_right _ (filled.holds element), List.nil_subset _⟩

theorem lends_local {resource : GstRef} :
    [resource] ⊆ (resource :: locals) ++ assembly.owned :=
  List.cons_subset.mpr ⟨List.mem_cons_self, List.nil_subset _⟩

theorem encoderCaps_stage (filled : Filled assembly) :
    Exceptional.Triple (Stage [] assembly) Builder.encoderCaps
      (fun _ => Stage [] assembly) thrown := by
  apply discard
  apply borrow_stage (filled.lends _)
    (fresh_of List.not_mem_nil rfl) (last_of_childless rfl)
  apply discard
  apply borrow_stage lends_local
    (fresh_of (by decide) rfl) (last_of_childless rfl)
  apply discard
  apply borrow_stage lends_local
    (fresh_of (by decide) rfl) (last_of_childless rfl)
  exact Exceptional.Triple.pure fun _ stage => stage

theorem sample_last : Last .sample ([] ++ assembly.owned) := by
  intro other member
  cases other with
  | mapping =>
      rcases List.mem_cons.mp member with hsame | howned
      · cases hsame
      · exact absurd howned (unowned rfl)
  | _ => rfl

theorem onNewEncodedSample_stage (filled : Filled assembly) :
    Exceptional.Triple (Stage [] assembly) Builder.onNewEncodedSample
      (fun _ => Stage [] assembly) thrown := by
  apply discard
  apply borrow_stage (filled.lends _)
    (fresh_of List.not_mem_nil rfl) sample_last
  apply discard
  apply borrow_stage lends_local
    (fresh_of (by decide) rfl) (last_of_childless rfl)
  apply discard
  apply borrow_stage _
    (fresh_of (by decide) rfl) (last_of_childless rfl)
  · exact Exceptional.Triple.pure fun _ stage => stage
  · intro resource member
    rcases List.mem_cons.mp member with rfl | member
    · exact List.mem_append_right _ filled.holds_pipeline
    · exact List.mem_append_left _
        (List.mem_singleton.mp member ▸ List.mem_cons_self)

theorem onNewRawSample_stage (filled : Filled assembly) :
    Exceptional.Triple (Stage [] assembly) Builder.onNewRawSample
      (fun _ => Stage [] assembly) thrown := by
  apply discard
  apply borrow_stage (filled.lends _)
    (fresh_of List.not_mem_nil rfl) sample_last
  apply discard
  apply borrow_stage lends_local
    (fresh_of (by decide) rfl) (last_of_childless rfl)
  exact Exceptional.Triple.pure fun _ stage => stage

theorem onBusMessage_stage (parsed : Bool) :
    Exceptional.Triple (Stage [] assembly) (Builder.onBusMessage parsed)
      (fun _ => Stage [] assembly) thrown := by
  apply Exceptional.Triple.ite
  · intro _
    apply Exceptional.Triple.bind _ (fetch_stage (List.nil_subset _)
      (fresh_of List.not_mem_nil rfl))
    intro err
    have hdebug : .debug ∉ given err .gerror ++ [] := by
      cases err <;> decide
    apply Exceptional.Triple.bind _ (fetch_stage (List.nil_subset _)
      (fresh_of hdebug rfl))
    intro dbg
    apply Exceptional.Triple.bind fun _ => Stage (given dbg .debug ++ [])
      assembly
    · have hback : Exceptional.Triple
          (Stage (given err .gerror ++ (given dbg .debug ++ [])) assembly)
          (giveBack err .gerror)
          (fun _ => Stage (given dbg .debug ++ []) assembly) thrown :=
        giveBack_stage (last_of_childless rfl)
      apply hback.weaken
      · intro builder stage
        exact stage.perm (by cases err <;> cases dbg <;> decide)
      · exact fun _ _ stage => stage
      · exact fun _ _ holds => holds
    · exact fun _ => giveBack_stage (last_of_childless rfl)
  · exact fun _ => Exceptional.Triple.pure fun _ stage => stage

theorem use_live (use : PipelineUse) :
    Exceptional.Triple Live use.run (fun _ => Live) Thrown := by
  cases use with
  | start => exact live_of_stage (fun _ => Filled.play) fun _ => start_stage
  | stop =>
      exact live_of_stage (fun _ => Filled.stopped) fun _ _ => stop_stage
  | encoderCaps =>
      exact live_of_stage (fun _ filled => filled) fun _ => encoderCaps_stage
  | encodedSample =>
      exact live_of_stage (fun _ filled => filled) fun _ =>
        onNewEncodedSample_stage
  | rawSample =>
      exact live_of_stage (fun _ filled => filled) fun _ =>
        onNewRawSample_stage
  | busMessage parsed =>
      exact live_of_stage (fun _ filled => filled) fun _ _ =>
        onBusMessage_stage parsed

/-! The destructor. -/

/-- Of `owned` nothing is a member any more. -/
structure Left (owned : List GstRef) (assembly : Assembly)
    (builder : Builder) : Prop where
  sound : builder.handles.Sound owned
  assembly_eq : builder.assembly = assembly

theorem free_left {resource : GstRef} {owned : List GstRef}
    (last : Last resource owned) :
    Exceptional.Triple (Left (resource :: owned) assembly)
      (Exceptional.update (Builder.free resource))
      (fun _ => Left owned assembly) thrown :=
  Exceptional.Triple.update fun _ left =>
    ⟨left.sound.free
      (fun other held => last other (List.mem_cons_of_mem _ held))
      (last resource List.mem_cons_self), left.assembly_eq⟩

theorem giveBack_left {found : Bool} {resource : GstRef}
    {owned : List GstRef} (last : Last resource owned) :
    Exceptional.Triple (Left (given found resource ++ owned) assembly)
      (giveBack found resource) (fun _ => Left owned assembly) thrown := by
  cases found with
  | false => exact Exceptional.Triple.pure fun _ left => left
  | true => exact free_left last

theorem unrefPipeline_left {lost : List GstRef} (idle : .active ∉ lost) :
    Exceptional.Triple
      (Left (made assembly.children ++ .pipeline :: lost) assembly)
      unrefPipeline (fun _ => Left lost assembly) thrown := by
  apply Exceptional.Triple.bind fun children builder =>
    children = assembly.children ∧
      Left (made assembly.children ++ .pipeline :: lost) assembly builder
  · exact Exceptional.Triple.observe fun _ left =>
      ⟨congrArg Assembly.children left.assembly_eq, left⟩
  intro children
  apply Exceptional.Triple.assume
  rintro rfl
  apply Exceptional.Triple.bind fun _ => Left (.pipeline :: lost) assembly
  · have hfree : ∀ element rest, Exceptional.Triple
        (Left (made (element :: rest) ++ .pipeline :: lost) assembly)
        (Exceptional.update (Builder.free (.element element)))
        (fun _ => Left (made rest ++ .pipeline :: lost) assembly) thrown :=
      fun _ _ => free_left (last_of_childless rfl)
    exact @Exceptional.Triple.forEach _ _ _ _
      (fun rest => Left (made rest ++ .pipeline :: lost) assembly) _ hfree
      assembly.children
  intro _
  apply free_left
  intro other member
  cases other with
  | active =>
      rcases List.mem_cons.mp member with hsame | hlost
      · cases hsame
      · exact absurd hlost idle
  | _ => rfl

theorem Stage.left {lost : List GstRef} (stage : Stage lost assembly builder)
    (idle : assembly.active = false) :
    Left (given assembly.watch .watch ++ (made assembly.children ++
      (given assembly.pipeline .pipeline ++ lost))) assembly builder := by
  refine ⟨stage.sound.perm ?_, stage.assembly_eq⟩
  unfold Assembly.owned
  rw [idle]
  simp only [given, Bool.false_eq_true, if_false, List.append_nil]
  have hcomm : (lost ++ (given assembly.watch .watch ++
      made assembly.children ++ given assembly.pipeline .pipeline)).Perm _ :=
    List.perm_append_comm
  simpa [given, made] using hcomm

theorem stopped_idle (coherent : assembly.Coherent) :
    assembly.stopped.active = false := by
  unfold Assembly.stopped
  split
  · rfl
  · next hnone => exact (coherent (Bool.not_eq_true _ ▸ hnone)).2.1

theorem stopped_children (coherent : assembly.Coherent)
    (none : assembly.stopped.pipeline = false) :
    assembly.stopped.children = [] := by
  unfold Assembly.stopped at none ⊢
  split
  · next hpipeline =>
      rw [if_pos hpipeline] at none
      exact absurd (hpipeline.symm.trans none) nofun
  · next hnone => exact (coherent (Bool.not_eq_true _ ▸ hnone)).2.2

theorem unrefChildren_left {lost : List GstRef} (idle : .active ∉ lost)
    (orphanless : assembly.pipeline = false → assembly.children = []) :
    Exceptional.Triple
      (Left (made assembly.children ++
        (given assembly.pipeline .pipeline ++ lost)) assembly)
      (if assembly.pipeline then unrefPipeline else pure ())
      (fun _ builder => builder.handles.Sound lost) thrown := by
  cases hpipeline : assembly.pipeline with
  | true =>
      apply (unrefPipeline_left idle).weaken (fun _ left => left)
      · exact fun _ _ left => left.sound
      · exact fun _ _ holds => holds
  | false =>
      rw [orphanless hpipeline]
      exact Exceptional.Triple.pure fun _ left => left.sound

theorem destruct_stage {lost : List GstRef} (idle : .active ∉ lost)
    (coherent : assembly.Coherent) :
    Exceptional.Triple (Stage lost assembly) Builder.destruct
      (fun _ builder => builder.handles.Sound lost) thrown := by
  apply Exceptional.Triple.bind _ stop_stage
  intro _
  apply Exceptional.Triple.bind fun current builder =>
    current = assembly.stopped ∧
      Left (given assembly.stopped.watch .watch ++
        (made assembly.stopped.children ++
          (given assembly.stopped.pipeline .pipeline ++ lost)))
        assembly.stopped builder
  · exact Exceptional.Triple.observe fun _ stage =>
      ⟨stage.assembly_eq, stage.left (stopped_idle coherent)⟩
  intro current
  apply Exceptional.Triple.assume
  rintro rfl
  apply Exceptional.Triple.bind _ (giveBack_left (last_of_childless rfl))
  exact fun _ => unrefChildren_left idle (stopped_children coherent)

/-- From wherever the object has got to. -/
theorem destruct_settles {lost : List GstRef} (idle : .active ∉ lost) :
    Exceptional.Triple (fun builder => Stage lost builder.assembly builder)
      Builder.destruct (fun _ builder => builder.handles.Sound lost)
      thrown :=
  fun builder stage => destruct_stage idle stage.coherent builder stage

end Uses

/-! The whole life of the object. -/

def lost : Except PipelineFailure Unit → List GstRef
  | .ok () => []
  | .error failure => failure.leaked

theorem leaked_idle (failure : PipelineFailure) : .active ∉ failure.leaked := by
  cases failure with
  | make element factory => simp [PipelineFailure.leaked]
  | teeBranch queueHead teePad queuePad =>
      cases teePad <;> cases queuePad <;> exact nofun
  | _ => exact List.not_mem_nil

theorem new_stage (script : List Bool) :
    Stage [] Assembly.new (Builder.fresh script) where
  sound := Handles.sound_empty
  assembly_eq := rfl
  coherent := new_coherent

theorem assembled_filled (cfg : BuildConfig) (factory : String)
    (watch : Bool) : Filled (assembled cfg factory watch) :=
  ⟨rfl, rfl⟩

theorem lifetime_settled (cfg : BuildConfig) (uses : List PipelineUse) :
    Exceptional.Triple (Stage [] Assembly.new) (pipelineLifetime cfg uses)
      (fun _ builder => builder.handles.Sound [])
      (fun failure builder => builder.handles.Sound failure.leaked) := by
  have hbody : Exceptional.Triple (Stage [] Assembly.new)
      (do
        build cfg
        Exceptional.forEach PipelineUse.run uses)
      (fun _ builder => Stage [] builder.assembly builder) Thrown := by
    apply Exceptional.Triple.bind fun _ => Live
    · apply (build_stage cfg).weaken (fun _ stage => stage)
      · rintro _ _ ⟨factory, watch, stage⟩
        exact ⟨_, assembled_filled cfg factory watch, stage⟩
      · exact fun _ _ holds => holds
    · intro _
      apply (Exceptional.Triple.forEach (fun use _ => use_live use) uses).weaken
        (fun _ live => live)
      · rintro _ _ ⟨assembly, _, stage⟩
        exact stage.here
      · exact fun _ _ holds => holds
  apply Exceptional.Triple.ensuring hbody
  · exact fun _ => destruct_settles List.not_mem_nil
  · exact fun failure => destruct_settles (leaked_idle failure)

/-- Whichever calls fail, the object uses no reference that it does not hold and
gives each back once.  All that it ever leaves behind are the elements made
before one that could not be made, and the pads of a tee branch that could not
be linked. -/
theorem lifetime_settles (cfg : BuildConfig) (uses : List PipelineUse)
    (script : List Bool) :
    let outcome := pipelineLifetime cfg uses (Builder.fresh script)
    outcome.2.handles.Sound (lost outcome.1) := by
  intro outcome
  have hsettled := (lifetime_settled cfg uses).outcome (new_stage script)
  cases hresult : outcome.1 with
  | ok value =>
      rw [hresult] at hsettled
      exact hsettled
  | error failure =>
      rw [hresult] at hsettled
      exact hsettled

/-- There is no encoder element to be made. -/
example :
    let cfg : BuildConfig := ⟨⟨30, 60⟩, "/dev/video0", 1280, 720, 4000, .x264⟩
    let script := List.replicate 7 true ++ [false]
    (pipelineLifetime cfg [] (Builder.fresh script)).2.handles.ledger.live =
      made [.encCvt, .encQ, .t, .srccaps, .cam] := by
  decide

/-! What is built. -/

/-- The two pipelines of the header. -/
def description : List (List Element) :=
  [[.cam, .srccaps, .t],
    [.t, .encQ, .encCvt, .enc, .encParse, .encSink],
    [.t, .rawQ, .rawCvt, .rawCaps, .rawSink]]

/-- The graph of the header, in which no branch holds up the tee and no
property is set twice. -/
structure Described (assembly : Assembly) : Prop where
  children : assembly.children = Element.all
  links : assembly.links.Perm (description.flatMap pairs)
  leaky : ∀ head, (.t, head) ∈ assembly.links →
    (head, "leaky", .int 2) ∈ assembly.properties
  connected : assembly.connected = [.encSink, .rawSink]
  once : (assembly.properties.map fun property =>
    (property.1, property.2.1)).Nodup

theorem encoderProperties_named (cfg : BuildConfig) (factory : String) :
    (encoderProperties cfg factory).map Prod.fst =
      if factory = "x264enc" then
        ["tune", "speed-preset", "key-int-max", "bitrate"]
      else ["extra-controls"] := by
  unfold encoderProperties
  split
  · rfl
  · rfl

def buildLinks : List (Element × Element) :=
  pairs [.cam, .srccaps, .t] ++
    pairs [.encQ, .encCvt, .enc, .encParse, .encSink] ++
      pairs [.rawQ, .rawCvt, .rawCaps, .rawSink] ++ [(.t, .encQ), (.t, .rawQ)]

def buildNames (encoderNames : List String) : List (Element × String) :=
  [(.cam, "device"), (.cam, "io-mode"), (.srccaps, "caps"),
    (.encQ, "leaky"), (.encQ, "max-size-buffers"), (.encQ, "max-size-time"),
    (.encQ, "max-size-bytes")] ++ encoderNames.map (.enc, ·) ++
  [(.encParse, "config-interval"), (.encSink, "emit-signals"),
    (.encSink, "sync"), (.encSink, "drop"), (.encSink, "max-buffers"),
    (.encSink, "caps"), (.rawQ, "leaky"), (.rawQ, "max-size-buffers"),
    (.rawQ, "max-size-time"), (.rawQ, "max-size-bytes"), (.rawCaps, "caps"),
    (.rawSink, "emit-signals"), (.rawSink, "sync"), (.rawSink, "drop"),
    (.rawSink, "max-buffers")]

theorem assembled_names (cfg : BuildConfig) (factory : String)
    (watch : Bool) :
    (assembled cfg factory watch).properties.map
        (fun property => (property.1, property.2.1)) =
      buildNames ((encoderProperties cfg factory).map Prod.fst) := by
  simp [assembled, Assembly.watched, Assembly.link, Assembly.linkAll,
    Assembly.addAll, Assembly.rawBranch, Assembly.encoderBranch,
    Assembly.source, Assembly.connect, Assembly.set, Assembly.started,
    Assembly.selected, Assembly.new, buildNames, queueProperties,
    sinkProperties]

theorem queue_leaky (cfg : BuildConfig) (factory : String) (watch : Bool)
    {head : Element} (isHead : head = .encQ ∨ head = .rawQ) :
    (head, "leaky", .int 2) ∈ (assembled cfg factory watch).properties := by
  rcases isHead with rfl | rfl
  all_goals
    simp [assembled, Assembly.watched, Assembly.link, Assembly.linkAll,
      Assembly.addAll, Assembly.rawBranch, Assembly.encoderBranch,
      Assembly.source, Assembly.connect, Assembly.set, queueProperties]

theorem tee_heads (head : Element) :
    (.t, head) ∈ buildLinks → head = .encQ ∨ head = .rawQ := by
  cases head <;> decide

theorem assembled_described (cfg : BuildConfig) (factory : String)
    (watch : Bool) : Described (assembled cfg factory watch) where
  children := rfl
  links := by
    have hlinks : (assembled cfg factory watch).links = buildLinks := rfl
    rw [hlinks]
    decide
  leaky head linked := queue_leaky cfg factory watch (tee_heads head linked)
  connected := rfl
  once := by
    rw [assembled_names, encoderProperties_named]
    split
    · decide
    · decide

theorem build_describes (cfg : BuildConfig) (script : List Bool)
    (returned : (build cfg (Builder.fresh script)).1 = .ok ()) :
    Described (build cfg (Builder.fresh script)).2.assembly := by
  have hbuilt := (build_stage cfg).outcome (new_stage script)
  rw [returned] at hbuilt
  obtain ⟨factory, watch, stage⟩ := hbuilt
  rw [stage.assembly_eq]
  exact assembled_described cfg factory watch

/-- Every call succeeds. -/
theorem build_describes_auto :
    let cfg : BuildConfig := ⟨⟨30, 60⟩, "/dev/video0", 1280, 720, 4000, .auto⟩
    (build cfg (Builder.fresh [])).1 = .ok () ∧
      Described (build cfg (Builder.fresh [])).2.assembly :=
  ⟨rfl, build_describes _ [] rfl⟩

end EmbeddedPortfolio.Pipeline
