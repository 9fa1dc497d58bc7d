import FormLease.Proofs.Settings.Mentions
import FormLease.Settings

/-!
# What a variable file adds

A variable file only adds: of its assignments those count whose variable
is not set before, by the process or by a line further up (`fresh`). So a
lookup asks the process first and the file second (`lookup_extended`).

That is about variables and not yet about settings. Names of variables
stand for key paths, and names that differ in case stand for the same
path. A file whose variable for a setting has the name that the process
uses adds nothing about the setting (`getLast?_extended`). One with another
spelling adds its variable after those of the process, and then its value
counts (`getLast?_extended_apart`).
-/

namespace FormLease.Settings

namespace Dotenv

/-- The logical lines of a file, without a mark for the order of bytes at
its beginning. -/
def lines (text : String) : List (Option (List Char)) :=
  let chars :=
    match text.toList with
    | '\ufeff' :: rest => rest
    | chars => chars
  logicalLines [] .plain (physicalLines chars)

/-- The assignments in some lines, up to the first line that cannot be
read. Values may take in variables, and with them those that lines before
have added. -/
def assignments : Variables → List (Option (List Char)) → Variables
  | _, [] => []
  | _, none :: _ => []
  | vars, some line :: rest =>
    match readLine (fun name => (vars.lookup name).getD "") line with
    | .nothing => assignments vars rest
    | .assigned name value =>
      (name, value)
        :: assignments (if (vars.lookup name).isSome then vars else vars ++ [(name, value)]) rest
    | .bad => []

/-- Those of some assignments that set a variable. -/
def fresh : Variables → Variables → Variables
  | _, [] => []
  | vars, (name, value) :: rest =>
    if (vars.lookup name).isSome then fresh vars rest
    else (name, value) :: fresh (vars ++ [(name, value)]) rest

theorem readLines_eq (vars : Variables) (lines : List (Option (List Char))) :
    readLines vars lines = vars ++ fresh vars (assignments vars lines) := by
  induction lines generalizing vars with
  | nil => exact (List.append_nil vars).symm
  | cons line rest ih =>
      cases line with
      | none => exact (List.append_nil vars).symm
      | some line =>
          cases hline : readLine (fun name => (vars.lookup name).getD "") line with
          | nothing =>
              simp only [readLines, assignments, hline]
              exact ih vars
          | bad =>
              simp only [readLines, assignments, hline]
              exact (List.append_nil vars).symm
          | assigned name value =>
              simp only [readLines, assignments, hline, fresh]
              rw [ih]
              split
              · rfl
              · rw [List.append_assoc]
                rfl

section Fresh

variable {vars file : Variables}

theorem fresh_sublist (vars file : Variables) : (fresh vars file).Sublist file := by
  induction file generalizing vars with
  | nil => exact .slnil
  | cons e rest ih =>
      rw [fresh]
      split
      · exact (ih vars).cons e
      · exact (ih _).cons_cons e

/-- What is added was not set. -/
theorem lookup_of_mem_fresh {e : String × String} (h : e ∈ fresh vars file) :
    vars.lookup e.1 = none := by
  induction file generalizing vars with
  | nil => cases h
  | cons first rest ih =>
      rw [fresh] at h
      split at h
      · exact ih h
      · next hfirst =>
          rcases List.mem_cons.mp h with rfl | h
          · exact Option.not_isSome_iff_eq_none.mp hfirst
          · have hlater := ih h
            rw [List.lookup_append, Option.or_eq_none_iff] at hlater
            exact hlater.1

/-- What is assigned is set afterwards, by the process, or else by the
first of the assignments. -/
theorem lookup_fresh (vars file : Variables) (name : String) :
    (vars ++ fresh vars file).lookup name = (vars.lookup name).or (file.lookup name) := by
  induction file generalizing vars with
  | nil => rw [fresh, List.append_nil, List.lookup_nil, Option.or_none]
  | cons e rest ih =>
      obtain ⟨n, value⟩ := e
      rw [fresh]
      split
      · next hset =>
          rw [ih, List.lookup_cons]
          by_cases hname : name = n
          · -- the process has the name, and the assignment does not count
            obtain ⟨old, hold⟩ := Option.isSome_iff_exists.mp hset
            rw [hname, hold]
            rfl
          · rw [beq_false_of_ne hname]
      · rw [List.append_cons, ih, List.lookup_append, Option.or_assoc]
        congr 1
        rw [List.lookup_cons, List.lookup_cons, List.lookup_nil]
        by_cases hname : name = n
        · rw [beq_iff_eq.mpr hname]
          rfl
        · rw [beq_false_of_ne hname]
          rfl

/-- If one assignment at most has a certain kind of name and its variable is
not set, then it is added. -/
theorem filter_fresh (p : String → Bool) (honce : (file.filter fun e => p e.1).length ≤ 1)
    (hset : ∀ e ∈ file, p e.1 = true → vars.lookup e.1 = none) :
    (fresh vars file).filter (fun e => p e.1) = file.filter fun e => p e.1 := by
  refine ((fresh_sublist vars file).filter fun e => p e.1).eq_of_length_le ?_
  cases hfile : file.filter fun e => p e.1 with
  | nil => exact Nat.zero_le _
  | cons e rest =>
      have hmem : e ∈ file.filter fun e => p e.1 := hfile ▸ List.mem_cons_self
      obtain ⟨he, hp⟩ := List.mem_filter.mp hmem
      -- the variable is set afterwards, and so it was added
      have hlookup := lookup_fresh vars file e.1
      rw [List.lookup_append, hset e he hp, Option.none_or, Option.none_or] at hlookup
      have hfound : ((fresh vars file).lookup e.1).isSome = true :=
        hlookup ▸ List.lookup_isSome_iff.mpr ⟨e, he, beq_self_eq_true e.1⟩
      obtain ⟨f, hf, hname⟩ := List.lookup_isSome_iff.mp hfound
      have hadded : f ∈ (fresh vars file).filter fun e => p e.1 :=
        List.mem_filter.mpr ⟨hf, beq_iff_eq.mp hname ▸ hp⟩
      exact Nat.le_trans (hfile ▸ honce) (List.length_pos_of_mem hadded)

end Fresh

end Dotenv

/-! ## Variables as settings -/

namespace Environment

/-- The name of a variable stands for the path of a setting. -/
def names (path : List String) (name : String) : Bool :=
  decide ((key? name).map Source.route = some (path.map .key))

end Environment

theorem mentionsAt_leaf (value : Scalar) (origin : Option String) (steps : List KeyPath.Step)
    (path : List String) : (Tree.leaf value origin).mentionsAt steps path
      = if steps = path.map .key then [.leaf value origin] else [] := by
  induction steps generalizing path with
  | nil => cases path <;> rfl
  | cons step steps ih =>
      cases step with
      | index i => cases path <;> simp [Tree.mentionsAt]
      | key name =>
          cases path with
          | nil => simp [Tree.mentionsAt]
          | cons key path =>
              by_cases hname : name = key
              · simp [Tree.mentionsAt, hname, ih]
              · simp [Tree.mentionsAt, hname]

/-- What variables mention of a path is the values of those that are named
for it. -/
theorem mentions_source (path : List String) (vars : Variables) :
    Source.mentions path (Environment.source vars)
      = (vars.filter fun e => Environment.names path e.1).map fun e =>
        .leaf (Environment.scalar e.2) (some Environment.origin) := by
  induction vars with
  | nil => rfl
  | cons e rest ih =>
      obtain ⟨name, value⟩ := e
      simp only [Environment.source, List.filterMap_cons, List.filter_cons, Environment.names] at ih ⊢
      cases hkey : Environment.key? name with
      | none => simpa using ih
      | some key =>
          simp only [Option.map_some, Source.mentions, List.flatMap_cons, mentionsAt_leaf,
            Option.some.injEq, decide_eq_true_eq] at ih ⊢
          rw [ih]
          split <;> rfl

/-! ## One setting, from two places -/

/-- Where the process and the file both have a variable for a path, they
spell its name alike. -/
def SpelledAlike (path : List String) (vars file : Variables) : Prop :=
  ∀ e ∈ vars, ∀ e' ∈ file, Environment.names path e.1 = true →
    Environment.names path e'.1 = true → e.1 = e'.1

section Named

variable {path : List String} {vars file : Variables}

instance : Decidable (SpelledAlike path vars file) :=
  inferInstanceAs (Decidable (∀ e ∈ vars, ∀ e' ∈ file, Environment.names path e.1 = true →
    Environment.names path e'.1 = true → e.1 = e'.1))

theorem mem_of_lookup {name : String} (h : vars.lookup name ≠ none) : ∃ e ∈ vars, e.1 = name := by
  obtain ⟨e, he, hname⟩ := List.lookup_isSome_iff.mp (Option.isSome_iff_ne_none.mpr h)
  exact ⟨e, he, (beq_iff_eq.mp hname).symm⟩

theorem lookup_ne_none {e : String × String} (h : e ∈ vars) : vars.lookup e.1 ≠ none :=
  Option.isSome_iff_ne_none.mp (List.lookup_isSome_iff.mpr ⟨e, h, beq_self_eq_true e.1⟩)

theorem eq_of_length_le_one {α : Type} {l : List α} (h : l.length ≤ 1) {a b : α} (ha : a ∈ l)
    (hb : b ∈ l) : a = b := by
  match l, h with
  | [c], _ => rw [List.mem_singleton.mp ha, List.mem_singleton.mp hb]

theorem mentions_extended (path : List String) (vars file : Variables) :
    Source.mentions path (Environment.source (vars ++ Dotenv.fresh vars file))
      = Source.mentions path (Environment.source vars)
        ++ ((Dotenv.fresh vars file).filter fun e => Environment.names path e.1).map fun e =>
          .leaf (Environment.scalar e.2) (some Environment.origin) := by
  rw [mentions_source, mentions_source, List.filter_append, List.map_append]

/-- If they spell the name alike, what the process says counts, and else
what the file says. -/
theorem getLast?_extended
    (honce : (Source.mentions path (Environment.source file)).length ≤ 1)
    (alike : SpelledAlike path vars file) :
    (Source.mentions path (Environment.source (vars ++ Dotenv.fresh vars file))).getLast?
      = (Source.mentions path (Environment.source vars)).getLast?.or
        (Source.mentions path (Environment.source file)).getLast? := by
  rw [mentions_extended, List.getLast?_append]
  rw [mentions_source, List.length_map] at honce
  simp only [mentions_source]
  cases hvars : vars.filter fun e => Environment.names path e.1 with
  | nil =>
      have hnamed : ∀ e ∈ vars, ¬ Environment.names path e.1 = true :=
        List.filter_eq_nil_iff.mp hvars
      have hset : ∀ e ∈ file, Environment.names path e.1 = true → vars.lookup e.1 = none := by
        intro e _ hname
        refine Decidable.byContradiction fun hlookup => ?_
        obtain ⟨e', he', heq⟩ := mem_of_lookup hlookup
        exact hnamed e' he' (heq ▸ hname)
      rw [Dotenv.filter_fresh (Environment.names path) honce hset, List.map_nil, List.getLast?_nil,
        Option.or_none, Option.none_or]
  | cons first rest =>
      have hfirst : first ∈ vars.filter fun e => Environment.names path e.1 :=
        hvars ▸ List.mem_cons_self
      obtain ⟨hmem, hname⟩ := List.mem_filter.mp hfirst
      have hfresh : (Dotenv.fresh vars file).filter (fun e => Environment.names path e.1) = [] := by
        refine List.filter_eq_nil_iff.mpr fun e he hname' => ?_
        have heq := alike first hmem e ((Dotenv.fresh_sublist vars file).mem he) hname hname'
        exact lookup_ne_none hmem (heq ▸ Dotenv.lookup_of_mem_fresh he)
      rw [hfresh, List.map_nil, List.getLast?_nil, Option.none_or, List.map_cons,
        List.getLast?_cons, Option.some_or]

/-- If they do not, what the file says counts. -/
theorem getLast?_extended_apart
    (honce : (Source.mentions path (Environment.source vars)).length ≤ 1)
    (honce' : (Source.mentions path (Environment.source file)).length ≤ 1)
    (apart : ¬ SpelledAlike path vars file) :
    ∃ t, (Source.mentions path (Environment.source file)).getLast? = some t
      ∧ (Source.mentions path (Environment.source (vars ++ Dotenv.fresh vars file))).getLast?
        = some t := by
  rw [mentions_source, List.length_map] at honce honce'
  simp only [SpelledAlike, Classical.not_forall, exists_prop] at apart
  obtain ⟨e, he, e', he', hname, hname', hne⟩ := apart
  have hset : ∀ f ∈ file, Environment.names path f.1 = true → vars.lookup f.1 = none := by
    intro f hf hfname
    refine Decidable.byContradiction fun hlookup => hne ?_
    obtain ⟨g, hg, heq⟩ := mem_of_lookup hlookup
    have hge : g = e := eq_of_length_le_one honce
      (List.mem_filter.mpr ⟨hg, heq ▸ hfname⟩) (List.mem_filter.mpr ⟨he, hname⟩)
    have hfe : f = e' := eq_of_length_le_one honce'
      (List.mem_filter.mpr ⟨hf, hfname⟩) (List.mem_filter.mpr ⟨he', hname'⟩)
    rw [← hge, ← hfe, heq]
  have hne_nil : Source.mentions path (Environment.source file) ≠ [] := by
    rw [mentions_source]
    exact List.ne_nil_of_mem (List.mem_map.mpr ⟨e', List.mem_filter.mpr ⟨he', hname'⟩, rfl⟩)
  refine ⟨_, List.getLast?_eq_some_getLast hne_nil, ?_⟩
  rw [mentions_extended, Dotenv.filter_fresh (Environment.names path) honce' hset,
    ← mentions_source, List.getLast?_append, List.getLast?_eq_some_getLast hne_nil, Option.some_or]

end Named

/-- The assignments of the variable file of a process. -/
def assigned (vars : Variables) (folder : Folder) : Variables :=
  match folder ".env" with
  | some text => Dotenv.assignments vars (Dotenv.lines text)
  | none => []

theorem extended_eq (vars : Variables) (folder : Folder) :
    extended vars folder = vars ++ Dotenv.fresh vars (assigned vars folder) := by
  unfold extended assigned
  cases folder ".env" with
  | none => exact (List.append_nil vars).symm
  | some text => exact Dotenv.readLines_eq vars (Dotenv.lines text)

theorem lookup_extended (vars : Variables) (folder : Folder) (name : String) :
    (extended vars folder).lookup name
      = (vars.lookup name).or ((assigned vars folder).lookup name) := by
  rw [extended_eq, Dotenv.lookup_fresh]

end FormLease.Settings
