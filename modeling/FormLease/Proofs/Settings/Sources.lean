import FormLease.Proofs.Settings.Layers

/-!
# Where settings come from

A process has its settings from six places: its variables, the variable
file, three settings files, and what is built in. Each leaf comes from the
highest of them that mentions it, and from nowhere else (`load_layered`).

The two highest places make one layer. What the variable file says gets
into it only where the process has not set the same variable, and
`SpelledAlike` is when this means that the process goes first. Which
settings files there are to read is decided by two variables, for which
the same two places are asked in the same order (`Sources.chosen`). All of
them have the one format; what folders this leaves out is said at `fileFor?`.
-/

namespace FormLease.Settings

/-- Where a process finds its settings, other than what is built in. -/
structure Sources where
  /-- The variables of the process. -/
  process : Variables
  /-- The assignments of the variable file. -/
  file : Variables
  ofService : Source
  ofEnvironment : Source
  ofDefault : Source

namespace Sources

/-- The layers, the highest first. -/
def layers (s : Sources) : List Source :=
  [Environment.source s.process, Environment.source s.file, s.ofService, s.ofEnvironment,
    s.ofDefault]

/-- A variable that decides which files are read: the process has the first
word about it and the variable file the second. -/
def chosen (s : Sources) (name usual : String) : String :=
  ((s.process.lookup name).or (s.file.lookup name)).getD usual

def environmentName (s : Sources) : String := s.chosen "SUBMISSION_ENV" "development"

/-- The path of a settings file. -/
def place (s : Sources) (name : String) : String :=
  Folder.within (s.chosen "CONFIG_DIR" "config") (name ++ ".toml")

/-- These are the sources that a process has, and all of them can be read.
-/
structure Of (s : Sources) (service : String) (vars : Variables) (folder : Folder) : Prop where
  process : s.process = vars
  file : s.file = assigned vars folder
  ofService : fileSource folder (s.place service) = .ok s.ofService
  ofEnvironment : fileSource folder (s.place s.environmentName) = .ok s.ofEnvironment
  ofDefault : fileSource folder (s.place "default") = .ok s.ofDefault

/-- The sources agree on which paths are tables, none mentions a leaf twice,
and what they say can be read. -/
structure Agree (s : Sources) : Prop where
  good : ∀ l : Leaf, ∀ source ∈ s.layers, source.Good l
  once : ∀ l : Leaf, ∀ source ∈ s.layers, (source.mentions l.path).length ≤ 1

instance (s : Sources) : Decidable s.Agree :=
  decidable_of_iff (∀ l ∈ Leaf.all, ∀ source ∈ s.layers, source.Good l
    ∧ (source.mentions l.path).length ≤ 1)
    ⟨fun h => ⟨fun l source hs => (h l l.mem_all source hs).1,
      fun l source hs => (h l l.mem_all source hs).2⟩,
      fun h l _ source hs => ⟨h.good l source hs, h.once l source hs⟩⟩

/-- The sources that a process has, without the files that cannot be read.
-/
def find (service : String) (vars : Variables) (folder : Folder) : Sources :=
  let s : Sources := ⟨vars, assigned vars folder, [], [], []⟩
  let settings (name : String) : Source := (fileSource folder (s.place name)).toOption.getD []
  { s with
    ofService := settings service
    ofEnvironment := settings s.environmentName
    ofDefault := settings "default" }

/-- What the first of the layers that mentions a leaf says about it. -/
def first (s : Sources) (l : Leaf) : Option l.Value := s.layers.findSome? l.said

variable {s : Sources} {service : String} {vars : Variables} {folder : Folder}

theorem of_find (readable : ∀ name ∈ [service, (find service vars folder).environmentName, "default"],
    (fileSource folder ((find service vars folder).place name)).isOk = true) :
    (find service vars folder).Of service vars folder := by
  have hread : ∀ {e : Except SettingsFault Source}, e.isOk = true → e = .ok (e.toOption.getD []) := by
    intro e he
    cases e with
    | error fault => cases he
    | ok source => rfl
  refine ⟨rfl, rfl, ?_, ?_, ?_⟩
  · exact hread (readable service (by simp))
  · exact hread (readable _ (by simp))
  · exact hread (readable "default" (by simp))

theorem Of.extended_eq (hs : s.Of service vars folder) :
    extended vars folder = s.process ++ Dotenv.fresh s.process s.file := by
  rw [hs.process, hs.file, Settings.extended_eq]

theorem Of.lookup (hs : s.Of service vars folder) (name usual : String) :
    ((extended vars folder).lookup name).getD usual = s.chosen name usual := by
  rw [lookup_extended, chosen, hs.process, hs.file]

/-- The layers of a process, one after the other. -/
theorem Of.layers_eq (hs : s.Of service vars folder) :
    Settings.layers service vars folder = .ok [builtIn service (extended vars folder), s.ofDefault,
      s.ofEnvironment, s.ofService, Environment.source (extended vars folder)] := by
  have hpaths : paths service (extended vars folder)
      = [s.place "default", s.place s.environmentName, s.place service] := by
    simp only [paths, Settings.environmentName, folderName, hs.lookup]
    rfl
  rw [Settings.layers, hpaths]
  simp only [List.mapM_cons, List.mapM_nil, hs.ofDefault, hs.ofEnvironment, hs.ofService]
  rfl

/-- The settings of a process: what its variables say, those of the file
among them, goes before the files, and the files before what is built in.
-/
theorem Of.load (hs : s.Of service vars folder) (agree : s.Agree) :
    ∃ settings, load service vars folder = .ok settings
      ∧ ∀ l : Leaf, l.get settings
        = ([Environment.source (extended vars folder), s.ofService, s.ofEnvironment,
          s.ofDefault].findSome? l.said).getD (l.builtIn service s.environmentName) := by
  let upper : List Source :=
    [Environment.source (extended vars folder), s.ofService, s.ofEnvironment, s.ofDefault]
  have hgood : ∀ l : Leaf,
      Source.Good (builtIn service (extended vars folder) :: upper.reverse).flatten l := by
    intro l
    obtain ⟨hprocess, hfile, hservice, henvironment, hdefault⟩ :
        Source.Good (Environment.source s.process) l ∧ Source.Good (Environment.source s.file) l
        ∧ s.ofService.Good l ∧ s.ofEnvironment.Good l ∧ s.ofDefault.Good l := by
      simpa [layers] using agree.good l
    have hvars : Source.Good (Environment.source (extended vars folder)) l :=
      hs.extended_eq ▸ good_extended hprocess hfile
    refine .flatten fun source hsource => ?_
    rcases List.mem_cons.mp hsource with rfl | hsource
    · exact good_builtIn l service _
    · simp only [upper, List.mem_reverse, List.mem_cons, List.not_mem_nil, or_false] at hsource
      rcases hsource with rfl | rfl | rfl | rfl
      · exact hvars
      · exact hservice
      · exact henvironment
      · exact hdefault
  obtain ⟨settings, hload, hget⟩ := ofTree_overlay hgood
  refine ⟨settings, ?_, fun l => ?_⟩
  · rw [Settings.load, hs.layers_eq]
    exact (congrArg ofTree List.foldl_flatten.symm).trans hload
  · rw [hget, said_flatten, List.reverse_cons, List.reverse_reverse, List.findSome?_append,
      List.findSome?_singleton, Option.getD_or, said_builtIn, Settings.environmentName, hs.lookup]
    rfl

theorem Of.findSome?_alike (hs : s.Of service vars folder) (agree : s.Agree) {l : Leaf}
    (alike : SpelledAlike l.path s.process s.file) :
    [Environment.source (extended vars folder), s.ofService, s.ofEnvironment,
      s.ofDefault].findSome? l.said = s.first l := by
  have honce := agree.once l (Environment.source s.file) (by simp [layers])
  have hvars : l.said (Environment.source (extended vars folder))
      = (l.said (Environment.source s.process)).or (l.said (Environment.source s.file)) := by
    rw [hs.extended_eq, Leaf.said, getLast?_extended honce alike, Option.map_or]
    rfl
  simp only [first, layers, List.findSome?_cons, hvars]
  cases l.said (Environment.source s.process) <;> rfl

theorem Of.findSome?_apart (hs : s.Of service vars folder) (agree : s.Agree) {l : Leaf}
    (apart : ¬ SpelledAlike l.path s.process s.file) :
    ∃ value, l.said (Environment.source s.file) = some value
      ∧ [Environment.source (extended vars folder), s.ofService, s.ofEnvironment,
        s.ofDefault].findSome? l.said = some value := by
  have honce := agree.once l (Environment.source s.process) (by simp [layers])
  have honce' := agree.once l (Environment.source s.file) (by simp [layers])
  obtain ⟨t, hfile, hvars⟩ := getLast?_extended_apart honce honce' apart
  refine ⟨l.meant t, by rw [Leaf.said, hfile]; rfl, ?_⟩
  have hsaid : l.said (Environment.source (extended vars folder)) = some (l.meant t) := by
    rw [hs.extended_eq, Leaf.said, hvars]
    rfl
  rw [List.findSome?_cons, hsaid]

theorem Of.get_alike (hs : s.Of service vars folder) (agree : s.Agree) {settings : Settings}
    (hload : Settings.load service vars folder = .ok settings) {l : Leaf}
    (alike : SpelledAlike l.path s.process s.file) :
    l.get settings = (s.first l).getD (l.builtIn service s.environmentName) := by
  obtain ⟨settings', hload', hget⟩ := hs.load agree
  obtain rfl := Except.ok.inj (hload'.symm.trans hload)
  rw [hget, hs.findSome?_alike agree alike]

theorem Of.get_apart (hs : s.Of service vars folder) (agree : s.Agree) {settings : Settings}
    (hload : Settings.load service vars folder = .ok settings) {l : Leaf}
    (apart : ¬ SpelledAlike l.path s.process s.file) :
    l.said (Environment.source s.file) = some (l.get settings) := by
  obtain ⟨settings', hload', hget⟩ := hs.load agree
  obtain rfl := Except.ok.inj (hload'.symm.trans hload)
  obtain ⟨value, hfile, hvalue⟩ := hs.findSome?_apart agree apart
  rw [hget, hvalue, hfile, Option.getD_some]

end Sources

/-! ## All settings -/

/-- What comes after a value that is found does not matter. -/
theorem findSome?_of_prefix {α β : Type} {f : α → Option β} {l : List α} {upper : List (Option β)}
    (h : upper <+: l.map f) (hfound : ∃ b, some b ∈ upper) :
    l.findSome? f = upper.findSome? id := by
  obtain ⟨rest, hrest⟩ := h
  obtain ⟨b, hb⟩ := hfound
  have hsome : (upper.findSome? id).isSome = true :=
    List.findSome?_isSome_iff.mpr ⟨some b, hb, rfl⟩
  obtain ⟨value, hvalue⟩ := Option.isSome_iff_exists.mp hsome
  calc l.findSome? f = (l.map f).findSome? id := by rw [List.findSome?_map]; rfl
    _ = upper.findSome? id := by
      rw [← hrest, List.findSome?_append, hvalue, Option.some_or]

/-- A process of which all the places have something to say. -/
def intakeVariables : Variables := [("CONFIG_DIR", "etc"), ("SUBMISSION_LOCK__TRIES", "5")]

def intakeFolder : Folder := fun path =>
  if path = ".env" then
    some "SUBMISSION_ENV=prod\nSUBMISSION_LOCK__TRIES=6\nSUBMISSION_REDIS__URL=r"
  else if path = "etc/default.toml" then some "[lock]\ntries = 1\ninitial_max_backoff_ms = 100"
  else if path = "etc/prod.toml" then
    some "[lock]\nbackend = 'redis'\ninitial_max_backoff_ms = 200"
  else if path = "etc/intake.toml" then some "[observability]\njson_logs = true"
  else none

/-- The variable file has another spelling for a variable of the process. -/
def spelledFolder : Folder := fun path =>
  if path = ".env" then some "submission_lock__tries=6" else none

/-- A settings file with no name before its ending. -/
def namelessFile : String := "[lock]\ntries = 9"

def namelessFolder : Folder := fun path =>
  if path = "config/.toml" then some namelessFile else none

end FormLease.Settings
