import CallPath.Proofs.Lasting
/-!
# Nodes by their ids

Two sessions can hold the same tracers at different positions, and read the clock for them in another
order. A `portrait` is what there is to tell of a node with ids in place of positions, and of its times only
which of them are known. `Forest.Alike` says of two forests that a thread finds the same portraits of its own
tracers in both. Changes of such `Twin` nodes that are the same on both sides keep the forests alike.
-/

namespace CallPath

/-! ## Nodes by their ids -/

/-- The node without its references to other nodes. Of its times there is only whether they are known. -/
def Node.bare (m : Node) : Node :=
  { m with
    children := []
    producer := none
    createdAt := 0
    startedAt := m.startedAt.map fun _ => 0
    endedAt := m.endedAt.map fun _ => 0 }

/-- A change of a node that does not touch its references, its id or its owner, and looks at no time. -/
structure Node.Plain (g : Node → Node) : Prop where
  bare : ∀ m, (g m).bare = (g m.bare).bare
  children : ∀ m, (g m).children = m.children
  id : ∀ m, (g m).id = m.id
  owner : ∀ m, (g m).owner = m.owner

namespace Node.Plain

theorem enter (state : TracerState) (now : Time) : Plain (·.enter state now) :=
  ⟨fun m => by cases state <;> simp [Node.bare, Node.enter, Function.comp_def], fun _ => rfl, fun _ => rfl,
    fun _ => rfl⟩

theorem fields (details : Details) : Plain fun m => { m with details } :=
  ⟨fun m => by simp [Node.bare, Function.comp_def], fun _ => rfl, fun _ => rfl, fun _ => rfl⟩

theorem failed (error : Option ErrorInfo) : Plain fun m => { m with error } :=
  ⟨fun m => by simp [Node.bare, Function.comp_def], fun _ => rfl, fun _ => rfl, fun _ => rfl⟩

theorem tagged (receipt : TagReceipt) : Plain fun m => { m with receipt } :=
  ⟨fun m => by simp [Node.bare, Function.comp_def], fun _ => rfl, fun _ => rfl, fun _ => rfl⟩

theorem attributed (key : String) (value : AttributeValue) :
    Plain fun m => { m with attributes := m.attributes ++ [(key, value)] } :=
  ⟨fun m => by simp [Node.bare, Function.comp_def], fun _ => rfl, fun _ => rfl, fun _ => rfl⟩

theorem released : Plain fun m => { m with held := false } :=
  ⟨fun m => by simp [Node.bare, Function.comp_def], fun _ => rfl, fun _ => rfl, fun _ => rfl⟩

end Node.Plain

/-- A node that enters a state does not look different at another time. -/
theorem Node.bare_enter (m : Node) (state : TracerState) (now now' : Time) :
    (m.enter state now').bare = (m.enter state now).bare := by
  cases state <;> rfl

namespace Forest

/-- What there is to tell of a node, with ids in place of positions. -/
def portrait (f : Forest) (n : NodeRef) : Node × List (LinkKind × TracerId) :=
  ((f.get n).bare, (f.get n).children.map (Prod.map id f.idOf))

section Portraits

variable {f f' : Forest} {n n' : NodeRef} (h : f'.portrait n' = f.portrait n)

include h

/-- What can be told without the references is the same. -/
theorem eq_of_portrait {α : Type} {p : Node → α} (hp : ∀ m, p m.bare = p m) : p (f'.get n') = p (f.get n) := by
  have hbare : (f'.get n').bare = (f.get n).bare := congrArg Prod.fst h
  rw [← hp, hbare, hp]

theorem idOf_eq_of_portrait : f'.idOf n' = f.idOf n :=
  eq_of_portrait (p := Node.id) h fun _ => rfl

theorem childRefs_of_portrait : (f'.get n').childRefs.map f'.idOf = (f.get n).childRefs.map f.idOf := by
  have hids : ∀ (f : Forest) (n : NodeRef), (f.get n).childRefs.map f.idOf =
      ((f.portrait n).2.filter fun c => c.1 = .child).map Prod.snd := by
    intro f n
    simp [portrait, Node.childRefs, List.filter_map, Function.comp_def]
  rw [hids, hids, h]

end Portraits

/-- No two nodes have the same id, and all children are there. -/
structure Regular (f : Forest) : Prop where
  distinct : ∀ m n, m < f.size → n < f.size → f.idOf m = f.idOf n → m = n
  bounded : ∀ n, ∀ c ∈ (f.get n).children, c.2 < f.size

namespace Regular

variable {f : Forest}

theorem modify {g : Node → Node} (h : f.Regular) (n : NodeRef) (hid : ∀ m, (g m).id = m.id)
    (hc : ∀ m, ∀ c ∈ (g m).children, c ∈ m.children ∨ c.2 < f.size) : (f.modify n g).Regular where
  distinct k m hk hm e := by
    have hids : ∀ m, (f.modify n g).idOf m = f.idOf m := get_modify_same (p := Node.id) hid f n
    rw [hids, hids] at e
    exact h.distinct k m (by simpa using hk) (by simpa using hm) e
  bounded m c hcm := by
    rw [get_modify_eq] at hcm
    rw [size_modify]
    split at hcm
    · exact (hc _ c hcm).elim (h.bounded m c) id
    · exact h.bounded m c hcm

theorem add {node : Node} (h : f.Regular) (hchildren : node.children = []) (hid : node.id ∉ f.ids) :
    (f.add node).2.Regular where
  distinct k m hk hm e := by
    have hnew : ∀ m, m < f.size → f.idOf m ≠ node.id := fun m hm e => hid (e ▸ idOf_mem_ids hm)
    rw [size_add] at hk hm
    unfold idOf at e
    rw [get_add, get_add] at e
    split at e <;> split at e
    · rename_i hk' hm'
      rw [hk', hm']
    · rename_i hm'
      exact absurd e.symm (hnew m (Nat.lt_of_le_of_ne (Nat.le_of_lt_succ hm) hm'))
    · rename_i hk' _
      exact absurd e (hnew k (Nat.lt_of_le_of_ne (Nat.le_of_lt_succ hk) hk'))
    · rename_i hk' hm'
      exact h.distinct k m (Nat.lt_of_le_of_ne (Nat.le_of_lt_succ hk) hk')
        (Nat.lt_of_le_of_ne (Nat.le_of_lt_succ hm) hm') e
  bounded m c hcm := by
    rw [get_add] at hcm
    rw [size_add]
    split at hcm
    · simp [hchildren] at hcm
    · exact Nat.lt_succ_of_lt (h.bounded m c hcm)

theorem nodup_ids (h : f.Regular) : f.ids.Nodup := by
  rw [List.nodup_iff_getElem?_ne_getElem?]
  intro m n hmn hn
  rw [length_ids] at hn
  rw [getElem?_ids hn, getElem?_ids (Nat.lt_trans hmn hn)]
  intro e
  exact absurd (h.distinct m n (Nat.lt_trans hmn hn) hn (Option.some.inj e)) (Nat.ne_of_lt hmn)

end Regular

/-- As many nodes, with the same ids and owners. -/
structure SameNames (f f₁ : Forest) : Prop where
  size : f₁.size = f.size
  id : ∀ n, f₁.idOf n = f.idOf n
  owner : ∀ n, (f₁.get n).owner = (f.get n).owner

theorem SameNames.trans {f f₁ f₂ : Forest} (h : f.SameNames f₁) (h' : f₁.SameNames f₂) : f.SameNames f₂ :=
  ⟨h'.size.trans h.size, fun n => (h'.id n).trans (h.id n), fun n => (h'.owner n).trans (h.owner n)⟩

theorem SameNames.idOf_eq {f f₁ : Forest} (h : f.SameNames f₁) : f₁.idOf = f.idOf :=
  funext h.id

theorem modify_sameNames {g : Node → Node} (hg : Node.Plain g) (f : Forest) (n : NodeRef) :
    f.SameNames (f.modify n g) :=
  ⟨f.size_modify n g, get_modify_same (p := Node.id) hg.id f n, get_modify_same (p := Node.owner) hg.owner f n⟩

theorem nest_sameNames (f : Forest) (b : Option NodeRef) (n : NodeRef) : f.SameNames (f.nest b n) :=
  ⟨f.size_nest b n, get_nest_same (p := Node.id) (fun _ _ => rfl) f b n,
    get_nest_same (p := Node.owner) (fun _ _ => rfl) f b n⟩

/-- A thread finds the same nodes of its own in two forests. -/
structure Alike (t : Thread) (f f' : Forest) : Prop where
  regular : f.Regular
  regular' : f'.Regular
  here : ∀ n < f.size, (f.get n).owner = t → ∃ n' < f'.size, f'.portrait n' = f.portrait n
  there : ∀ n' < f'.size, (f'.get n').owner = t → ∃ n < f.size, f'.portrait n' = f.portrait n

/-- Two positions of a node of the thread. -/
structure Twin (t : Thread) (f f' : Forest) (n n' : NodeRef) : Prop where
  here : n < f.size
  there : n' < f'.size
  owner : (f.get n).owner = t
  portrait : f'.portrait n' = f.portrait n

namespace Alike

variable {t : Thread} {f f' : Forest} {n n' : NodeRef}

theorem symm (h : Alike t f f') : Alike t f' f where
  regular := h.regular'
  regular' := h.regular
  here n hn ho := by
    obtain ⟨n', hn', e⟩ := h.there n hn ho
    exact ⟨n', hn', e.symm⟩
  there n' hn' ho := by
    obtain ⟨n, hn, e⟩ := h.here n' hn' ho
    exact ⟨n, hn, e.symm⟩

/-- The nodes with an id are twins, if the first one is of the thread. -/
theorem twin (h : Alike t f f') (hn : n < f.size) (hn' : n' < f'.size) (hid : f'.idOf n' = f.idOf n)
    (ho : (f.get n).owner = t) : Twin t f f' n n' := by
  obtain ⟨k, hk, e⟩ := h.here n hn ho
  obtain rfl : k = n' := h.regular'.distinct k n' hk hn' ((idOf_eq_of_portrait e).trans hid.symm)
  exact ⟨hn, hn', ho, e⟩

/-- Twins stay twins in forests where the thread finds the same again. -/
theorem twin_of_names {f₁ f₁' : Forest} (h : Alike t f₁ f₁') (hn : Twin t f f' n n') (names : f.SameNames f₁)
    (names' : f'.SameNames f₁') : Twin t f₁ f₁' n n' :=
  h.twin (names.size ▸ hn.here) (names'.size ▸ hn.there)
    ((names'.id n').trans ((idOf_eq_of_portrait hn.portrait).trans (names.id n).symm)) ((names.owner n).trans hn.owner)

/-- Twins are met together. -/
theorem eq_iff (h : Alike t f f') {m m' : NodeRef} (hn : Twin t f f' n n') (hm : Twin t f f' m m') :
    n = m ↔ n' = m' := by
  constructor
  · rintro rfl
    have hid := (idOf_eq_of_portrait hn.portrait).trans (idOf_eq_of_portrait hm.portrait).symm
    exact h.regular'.distinct n' m' hn.there hm.there hid
  · rintro rfl
    have hid := (idOf_eq_of_portrait hn.portrait).symm.trans (idOf_eq_of_portrait hm.portrait)
    exact h.regular.distinct n m hn.here hm.here hid

/-! ### Changes on both sides -/

theorem portrait_modify_ne {g : Node → Node} (hg : ∀ m, (g m).id = m.id) {m : NodeRef} (h : n ≠ m) :
    (f.modify n g).portrait m = f.portrait m := by
  have hid : (f.modify n g).idOf = f.idOf := funext fun m => get_modify_same (p := Node.id) hg f n m
  unfold portrait
  rw [get_modify_ne h, hid]

theorem portrait_modify_self {g : Node → Node} (hg : ∀ m, (g m).id = m.id) (hn : n < f.size) :
    (f.modify n g).portrait n = ((g (f.get n)).bare, (g (f.get n)).children.map (Prod.map id f.idOf)) := by
  have hid : (f.modify n g).idOf = f.idOf := funext fun m => get_modify_same (p := Node.id) hg f n m
  unfold portrait
  rw [get_modify f n n g hn, if_pos rfl, hid]

/-- Twins that change alike. -/
theorem modify {g g' : Node → Node} (h : Alike t f f') (hn : Twin t f f' n n') (hg : ∀ m, (g m).id = m.id)
    (hg' : ∀ m, (g' m).id = m.id) (ho : ∀ m, (g m).owner = m.owner) (ho' : ∀ m, (g' m).owner = m.owner)
    (hr : (f.modify n g).Regular) (hr' : (f'.modify n' g').Regular)
    (hself : (f'.modify n' g').portrait n' = (f.modify n g).portrait n) :
    Alike t (f.modify n g) (f'.modify n' g') := by
  have howner : ∀ m, ((f.modify n g).get m).owner = (f.get m).owner := get_modify_same (p := Node.owner) ho f n
  have howner' : ∀ m, ((f'.modify n' g').get m).owner = (f'.get m).owner :=
    get_modify_same (p := Node.owner) ho' f' n'
  have hportrait : ∀ m m', Twin t f f' m m' → (f'.modify n' g').portrait m' = (f.modify n g).portrait m := by
    intro m m' hm
    by_cases e : n = m
    · obtain rfl := (h.eq_iff hn hm).1 e
      rwa [← e]
    · have e' : n' ≠ m' := fun e' => e ((h.eq_iff hn hm).2 e')
      rw [portrait_modify_ne hg e, portrait_modify_ne hg' e', hm.portrait]
  refine ⟨hr, hr', ?_, ?_⟩
  · intro m hm ho
    rw [howner] at ho
    obtain ⟨m', hm', e⟩ := h.here m (by simpa using hm) ho
    exact ⟨m', by simpa using hm', hportrait m m' ⟨by simpa using hm, hm', ho, e⟩⟩
  · intro m' hm' ho
    rw [howner'] at ho
    obtain ⟨m, hm, e⟩ := h.there m' (by simpa using hm') ho
    have hom : (f.get m).owner = t := (eq_of_portrait (p := Node.owner) e fun _ => rfl).symm.trans ho
    exact ⟨m, by simpa using hm, hportrait m m' ⟨hm, by simpa using hm', hom, e⟩⟩

/-- Twins that change in the same way, but for their references and the times. -/
theorem modify_plain {g g' : Node → Node} (h : Alike t f f') (hn : Twin t f f' n n') (hg : Node.Plain g)
    (hg' : Node.Plain g') (hsame : ∀ m, (g' m).bare = (g m).bare) : Alike t (f.modify n g) (f'.modify n' g') := by
  have hregular : ∀ {f : Forest} {g : Node → Node} n, Node.Plain g → f.Regular → (f.modify n g).Regular :=
    fun n hg hf => hf.modify n hg.id fun m c hc => .inl (hg.children m ▸ hc)
  refine h.modify hn hg.id hg'.id hg.owner hg'.owner (hregular n hg h.regular) (hregular n' hg' h.regular') ?_
  obtain ⟨h1, h2⟩ := Prod.ext_iff.1 hn.portrait
  have hbare : (f'.get n').bare = (f.get n).bare := h1
  rw [portrait_modify_self hg'.id hn.there, portrait_modify_self hg.id hn.here, hsame, hg.bare, hbare, ← hg.bare,
    hg.children, hg'.children]
  exact Prod.ext rfl h2

/-- Twins that get twins nested in them. -/
theorem link {c c' : NodeRef} (h : Alike t f f') (hn : Twin t f f' n n') (hc : Twin t f f' c c') :
    Alike t (f.modify n (·.link .child c)) (f'.modify n' (·.link .child c')) := by
  have hid : ∀ c (m : Node), (m.link .child c).id = m.id := fun _ _ => rfl
  have hregular : ∀ {f : Forest} n c, c < f.size → f.Regular → (f.modify n (·.link .child c)).Regular := by
    intro f n c hc hf
    refine hf.modify n (hid c) fun m d hd => ?_
    rcases List.mem_append.1 hd with hd | hd
    · exact .inl hd
    · rw [List.mem_singleton.1 hd]
      exact .inr hc
  refine h.modify hn (hid c) (hid c') (fun _ => rfl) (fun _ => rfl) (hregular n c hc.here h.regular)
    (hregular n' c' hc.there h.regular') ?_
  rw [portrait_modify_self (hid c') hn.there, portrait_modify_self (hid c) hn.here]
  obtain ⟨h1, h2⟩ := Prod.ext_iff.1 hn.portrait
  refine Prod.ext h1 ?_
  show ((f'.get n').children ++ [(LinkKind.child, c')]).map _ = ((f.get n).children ++ [(LinkKind.child, c)]).map _
  rw [List.map_append, List.map_append, show (f'.get n').children.map (Prod.map id f'.idOf) = _ from h2]
  simp [portrait, idOf_eq_of_portrait hc.portrait]

/-- A new node leaves the others as they are. -/
theorem portrait_add (hf : f.Regular) (node : Node) (hn : n < f.size) : (f.add node).2.portrait n = f.portrait n := by
  have hget : ∀ m < f.size, (f.add node).2.get m = f.get m := by
    intro m hm
    rw [get_add, if_neg (Nat.ne_of_lt hm)]
  unfold portrait
  rw [hget n hn]
  refine Prod.ext rfl (List.map_congr_left fun c hc => ?_)
  exact Prod.ext rfl (congrArg Node.id (hget c.2 (hf.bounded n c hc)))

theorem portrait_added {node : Node} (hchildren : node.children = []) :
    (f.add node).2.portrait f.size = (node.bare, []) := by
  unfold portrait
  rw [get_add, if_pos rfl, hchildren]
  rfl

/-- A new node on both sides. -/
theorem add {node node' : Node} (h : Alike t f f') (hchildren : node.children = []) (hchildren' : node'.children = [])
    (hid : node.id ∉ f.ids) (hid' : node'.id ∉ f'.ids) (hbare : node'.bare = node.bare) :
    Alike t (f.add node).2 (f'.add node').2 := by
  refine ⟨h.regular.add hchildren hid, h.regular'.add hchildren' hid', ?_, ?_⟩
  · intro n hn ho
    by_cases e : n = f.size
    · refine ⟨f'.size, by simp, ?_⟩
      rw [e, portrait_added hchildren, portrait_added hchildren', hbare]
    · have hlt : n < f.size := Nat.lt_of_le_of_ne (Nat.le_of_lt_succ (by simpa using hn)) e
      rw [get_add, if_neg e] at ho
      obtain ⟨n', hn', hp⟩ := h.here n hlt ho
      refine ⟨n', by simpa using Nat.lt_succ_of_lt hn', ?_⟩
      rw [portrait_add h.regular' node' hn', portrait_add h.regular node hlt, hp]
  · intro n' hn' ho
    by_cases e : n' = f'.size
    · refine ⟨f.size, by simp, ?_⟩
      rw [e, portrait_added hchildren, portrait_added hchildren', hbare]
    · have hlt : n' < f'.size := Nat.lt_of_le_of_ne (Nat.le_of_lt_succ (by simpa using hn')) e
      rw [get_add, if_neg e] at ho
      obtain ⟨n, hn, hp⟩ := h.there n' hlt ho
      refine ⟨n, by simpa using Nat.lt_succ_of_lt hn, ?_⟩
      rw [portrait_add h.regular' node' hlt, portrait_add h.regular node hn, hp]

/-- A thread finds the same nodes in a forest to which others added nodes. -/
theorem grown {f₁ : Forest} (h : f.Alike t f') (hr : f₁.Regular) (hl : f.Later f₁)
    (hget : ∀ n < f.size, (f.get n).owner = t → f₁.get n = f.get n)
    (hnew : ∀ n < f₁.size, (f₁.get n).owner = t → n < f.size) : f₁.Alike t f' := by
  have hportrait : ∀ n < f.size, (f.get n).owner = t → f₁.portrait n = f.portrait n := by
    intro n hn ho
    unfold portrait
    rw [hget n hn ho]
    refine Prod.ext rfl (List.map_congr_left fun c hc => ?_)
    exact Prod.ext rfl (hl.node c.2 (h.regular.bounded n c hc)).id
  refine ⟨hr, h.regular', ?_, ?_⟩
  · intro n hn ho
    have hlt := hnew n hn ho
    rw [(hl.node n hlt).owner] at ho
    obtain ⟨n', hn', e⟩ := h.here n hlt ho
    exact ⟨n', hn', e.trans (hportrait n hlt ho).symm⟩
  · intro n' hn' ho
    obtain ⟨n, hn, e⟩ := h.there n' hn' ho
    have ho' : (f.get n).owner = t := (eq_of_portrait (p := Node.owner) e fun _ => rfl).symm.trans ho
    exact ⟨n, Nat.lt_of_lt_of_le hn hl.size, e.trans (hportrait n hn ho').symm⟩

end Alike

/-- The children of twins that run. -/
theorem Twin.unendedChildren {t : Thread} {f f' : Forest} {n n' : NodeRef} (hn : Twin t f f' n n') (h : Alike t f f')
    (hc : ∀ c ∈ (f.get n).childRefs, c < f.size ∧ (f.get c).owner = t)
    (hc' : ∀ c ∈ (f'.get n').childRefs, c < f'.size ∧ (f'.get c).owner = t) :
    f'.unendedChildren n' = f.unendedChildren n := by
  have hids := childRefs_of_portrait hn.portrait
  unfold Forest.unendedChildren
  generalize (f.get n).childRefs = l at hc hids ⊢
  generalize (f'.get n').childRefs = l' at hc' hids ⊢
  induction l generalizing l' with
  | nil => simp [List.map_eq_nil_iff.1 hids]
  | cons c l ih =>
    obtain ⟨c', l', rfl⟩ : ∃ c' l'', l' = c' :: l'' := by
      cases l' with
      | nil => simp at hids
      | cons c' l' => exact ⟨c', l', rfl⟩
    obtain ⟨hid, hids⟩ := List.cons.inj hids
    obtain ⟨hlt, ho⟩ := hc c (List.mem_cons_self ..)
    have twin := h.twin hlt (hc' c' (List.mem_cons_self ..)).1 hid ho
    have hstate := eq_of_portrait (p := Node.state) twin.portrait fun _ => rfl
    have hlabel := eq_of_portrait (p := Node.label) twin.portrait fun _ => rfl
    have hrest := ih (fun d hd => hc d (List.mem_cons_of_mem _ hd)) l'
      (fun d hd => hc' d (List.mem_cons_of_mem _ hd)) hids
    rw [List.filter_cons, List.filter_cons, hstate]
    split
    · rw [List.map_cons, List.map_cons, hrest]
      exact congrArg (· :: _) hlabel
    · exact hrest

end Forest

end CallPath
