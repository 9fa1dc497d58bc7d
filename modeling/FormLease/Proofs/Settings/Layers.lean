import FormLease.Proofs.Settings.Added
import FormLease.Proofs.Settings.Leaf

/-!
# Layers, leaf by leaf

Layers are laid over one another, and each of the sixteen leaves is
decided alone: a layer that mentions it counts for it, one that does not
is as good as absent, and the last one laid down has the last word
(`said_append`). That needs layers that agree on which paths are tables
(`Source.Good`): otherwise what one layer says about a leaf could take away
what another says about its neighbours.

What is built in and what the variables say are two of the layers, and
both are good ones if the sources of the variables are.
-/

namespace FormLease.Settings

/-! ## Layers that can be read -/

/-- What a layer says about a leaf has its place in a tree of the right
shape, and can be read. -/
structure Source.Good (source : Source) (l : Leaf) : Prop where
  fits : source.fits l.path = true
  typed : ∀ t ∈ source.mentions l.path, (l.reading l.key t).isOk = true

section Good

variable {l : Leaf} {source source' : Source}

instance : Decidable (source.Good l) :=
  decidable_of_iff (source.fits l.path = true
    ∧ ∀ t ∈ source.mentions l.path, (l.reading l.key t).isOk = true)
    ⟨fun h => ⟨h.1, h.2⟩, fun h => ⟨h.fits, h.typed⟩⟩

theorem Source.Good.append (h : source.Good l) (h' : source'.Good l) :
    Source.Good (source ++ source') l where
  fits := by rw [fits_append, h.fits, h'.fits]; rfl
  typed := by
    intro t ht
    rw [mentions_append] at ht
    exact (List.mem_append.mp ht).elim (h.typed t) (h'.typed t)

/-- What is said later goes first. -/
theorem said_append (l : Leaf) (source source' : Source) :
    l.said (source ++ source') = (l.said source').or (l.said source) := by
  rw [Leaf.said, Source.mentions_append, List.getLast?_append, Option.map_or]
  rfl

theorem Source.Good.flatten {layers : List Source} (h : ∀ source ∈ layers, source.Good l) :
    Source.Good layers.flatten l := by
  induction layers with
  | nil => exact ⟨rfl, fun t ht => by cases ht⟩
  | cons source rest ih =>
      exact (h source List.mem_cons_self).append
        (ih fun source' h' => h source' (List.mem_cons_of_mem _ h'))

theorem said_flatten (l : Leaf) (layers : List Source) :
    l.said layers.flatten = layers.reverse.findSome? l.said := by
  induction layers with
  | nil => rfl
  | cons source rest ih =>
      rw [List.flatten_cons, said_append, ih, List.reverse_cons, List.findSome?_append,
        List.findSome?_singleton]

theorem ofTree_overlay {source : Source} (good : ∀ l, source.Good l) :
    ∃ settings, ofTree (Tree.emptyTable.overlay source) = .ok settings
      ∧ ∀ l : Leaf, l.get settings = (l.said source).getD l.usual := by
  have hempty : ∀ l : Leaf, Tree.emptyTable.fits l.path = true
      ∧ Tree.emptyTable.at? l.path = none := by
    intro l
    cases l <;> exact ⟨rfl, rfl⟩
  have hover : ∀ l : Leaf, Tree.Over l.path (some Tree.emptyTable) (source.mentions l.path)
      (Tree.emptyTable.overlay source) :=
    fun l => Source.over_overlay (good l).fits (hempty l).1
  have hat : ∀ l : Leaf, (Tree.emptyTable.overlay source).at? l.path
      = (source.mentions l.path).getLast? := by
    intro l
    rw [(hover l).at?, Option.bind_some, (hempty l).2, Option.or_none]
  obtain ⟨settings, hload, hget⟩ := ofTree_of_fits (fun l => (hover l).fits) fun l u hu =>
    (good l).typed u (List.mem_of_getLast? ((hat l).symm.trans hu))
  refine ⟨settings, hload, fun l => ?_⟩
  rw [hget, hat]
  rfl

end Good

/-! ## What is built in -/

/-- The value of a leaf that nobody mentions. -/
def Leaf.builtIn (service environment : String) : (l : Leaf) → l.Value
  | .serviceName => service
  | .environment => environment
  | l => l.usual

theorem route_serviceName : Source.route "service_name" = [.key "service_name"] := by
  decide +kernel

theorem route_environment : Source.route "environment" = [.key "environment"] := by
  decide +kernel

theorem mentions_builtIn (l : Leaf) (service : String) (vars : Variables) :
    Source.mentions l.path (builtIn service vars) = match l with
      | .serviceName => [.leaf (.text service) none]
      | .environment => [.leaf (.text (environmentName vars)) none]
      | _ => [] := by
  simp only [Source.mentions, builtIn, List.flatMap_cons, List.flatMap_nil, mentionsAt_leaf,
    route_serviceName, route_environment]
  cases l <;> simp [Leaf.path]

theorem good_builtIn (l : Leaf) (service : String) (vars : Variables) :
    Source.Good (builtIn service vars) l where
  fits := by
    simp only [Source.fits, builtIn, List.all_cons, List.all_nil, route_serviceName,
      route_environment]
    cases l <;> simp [Leaf.path, Tree.fitsAt, Tree.fits]
  typed := by
    rw [mentions_builtIn]
    intro t ht
    cases l with
    | serviceName =>
        rw [List.mem_singleton.mp ht]
        rfl
    | environment =>
        rw [List.mem_singleton.mp ht]
        rfl
    | _ => cases ht

theorem said_builtIn (l : Leaf) (service : String) (vars : Variables) :
    (l.said (builtIn service vars)).getD l.usual = l.builtIn service (environmentName vars) := by
  rw [Leaf.said, mentions_builtIn]
  cases l <;> rfl

/-! ## The variables as one layer -/

theorem fits_source_append {path : List String} {vars vars' : Variables} :
    Source.fits path (Environment.source (vars ++ vars'))
      = (Source.fits path (Environment.source vars) && Source.fits path (Environment.source vars')) := by
  rw [Environment.source, List.filterMap_append, Source.fits_append]
  rfl

theorem fits_of_sublist {path : List String} {vars vars' : Variables} (hsub : vars'.Sublist vars)
    (h : Source.fits path (Environment.source vars) = true) :
    Source.fits path (Environment.source vars') = true :=
  List.all_eq_true.mpr fun e he => List.all_eq_true.mp h e ((hsub.filterMap _).mem he)

theorem good_extended {l : Leaf} {vars file : Variables}
    (hvars : Source.Good (Environment.source vars) l)
    (hfile : Source.Good (Environment.source file) l) :
    Source.Good (Environment.source (vars ++ Dotenv.fresh vars file)) l where
  fits := by
    rw [fits_source_append, hvars.fits, fits_of_sublist (Dotenv.fresh_sublist vars file) hfile.fits]
    rfl
  typed := by
    intro t ht
    rw [mentions_extended] at ht
    rcases List.mem_append.mp ht with ht | ht
    · exact hvars.typed t ht
    · refine hfile.typed t ?_
      rw [mentions_source]
      exact (((Dotenv.fresh_sublist vars file).filter _).map _).mem ht

end FormLease.Settings
