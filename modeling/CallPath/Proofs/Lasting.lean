import CallPath.Proofs.Effects
/-!
# What lasts

Some of what a node holds is there for good: its id, owner and kind from the beginning, its tag from
the moment it is no longer `created`, the fact that it has ended, its producer and every child once
they are there. `Node.Later` says so of two stages of a node, every effect respects it
(`Effect.later`), and so it holds between any two points of a run (`Run.later`). The owner of a new
node is the thread that the command was asked on (`Step.owner`).
-/

namespace CallPath

/-- The second node is the first one, now or at a later time. -/
structure Node.Later (m m' : Node) : Prop where
  id : m'.id = m.id
  owner : m'.owner = m.owner
  kind : m'.kind = m.kind
  begun : m.state ≠ .created → m'.state ≠ .created
  ended : m.state = .ended → m'.state = .ended
  /-- Tags are only given to created tracers of the kinds that take them. -/
  receipt : m.state ≠ .created ∨ m.kind.acceptsTag = false → m'.receipt = m.receipt
  producer : ∀ p, m.producer = some p → m'.producer = some p
  children : m.children <+: m'.children

namespace Node.Later

theorem refl (m : Node) : m.Later m :=
  ⟨rfl, rfl, rfl, fun h => h, fun h => h, fun _ => rfl, fun _ h => h, List.prefix_refl _⟩

theorem trans {m m' m'' : Node} (h : m.Later m') (h' : m'.Later m'') : m.Later m'' where
  id := h'.id.trans h.id
  owner := h'.owner.trans h.owner
  kind := h'.kind.trans h.kind
  begun hm := h'.begun (h.begun hm)
  ended hm := h'.ended (h.ended hm)
  receipt hm := by
    rw [← h.receipt hm]
    refine h'.receipt ?_
    rw [h.kind]
    exact hm.imp_left h.begun
  producer p hp := h'.producer p (h.producer p hp)
  children := h.children.trans h'.children

theorem of_ended (m : Node) (now : Time) : m.Later (m.enter .ended now) :=
  ⟨rfl, rfl, rfl, fun _ => nofun, fun _ => rfl, fun _ => rfl, fun _ h => h, List.prefix_refl _⟩

theorem of_link (m : Node) (k : LinkKind) (c : NodeRef) : m.Later (m.link k c) :=
  ⟨rfl, rfl, rfl, fun h => h, fun h => h, fun _ => rfl, fun _ h => h, List.prefix_append ..⟩

/-- An error, attributes and the hold of the program may come and go. -/
theorem of_rest (m : Node) (error : Option ErrorInfo) (attributes : List (String × AttributeValue)) (held : Bool) :
    m.Later { m with error, attributes, held } :=
  ⟨rfl, rfl, rfl, fun h => h, fun h => h, fun _ => rfl, fun _ h => h, List.prefix_refl _⟩

end Node.Later

/-- Every node of the first forest is, maybe at a later time, in the second. -/
structure Forest.Later (f f' : Forest) : Prop where
  size : f.size ≤ f'.size
  node : ∀ n < f.size, (f.get n).Later (f'.get n)

namespace Forest.Later

variable {f f' f'' : Forest}

theorem refl (f : Forest) : f.Later f :=
  ⟨Nat.le_refl _, fun _ _ => .refl _⟩

theorem trans (h : f.Later f') (h' : f'.Later f'') : f.Later f'' :=
  ⟨Nat.le_trans h.size h'.size, fun n hn => (h.node n hn).trans (h'.node n (Nat.lt_of_lt_of_le hn h.size))⟩

theorem modify {n : NodeRef} {g : Node → Node} (h : (f.get n).Later (g (f.get n))) : f.Later (f.modify n g) where
  size := Nat.le_of_eq (f.size_modify n g).symm
  node m hm := by
    rw [Forest.get_modify f n m g hm]
    split
    · rename_i e
      exact e ▸ h
    · exact .refl _

theorem nest (f : Forest) (below? : Option NodeRef) (n : NodeRef) : f.Later (f.nest below? n) := by
  cases below? with
  | none => exact .refl f
  | some b => exact .modify (.of_link _ _ _)

theorem resolve {c : NodeRef} (h : (f.get c).isResolved = false) (p : NodeRef) : f.Later (f.resolve c p) := by
  have hnone : (f.get c).producer = none := by simpa [Node.isResolved] using h
  have hset : f.Later (f.modify c fun n => { n with producer := some p }) :=
    .modify ⟨rfl, rfl, rfl, id, id, fun _ => rfl, fun q hq => by simp [hnone] at hq, List.prefix_refl _⟩
  exact hset.trans (.modify (.of_link _ _ _))

end Forest.Later

theorem Effect.later {t : Thread} {s s' : Session} {ms : List Mark} (he : Effect t s ms s') :
    s.forest.Later s'.forest := by
  cases he with
  | created id d _ =>
    constructor
    · show _ ≤ (s.forest.add _).2.size
      simp
    · intro n hn
      rw [Session.get_create, if_neg (Nat.ne_of_lt hn)]
      exact .refl _
  | begun n _ _ hst _ =>
    refine (Forest.Later.nest s.forest (s.active? t) n).trans (.modify ?_)
    have hst' : ((s.forest.nest (s.active? t) n).get n).state = .created :=
      (Forest.get_nest_same (p := Node.state) (fun _ _ => rfl) s.forest _ n n).trans hst
    exact ⟨rfl, rfl, rfl, fun _ => nofun, fun h => by simp [hst'] at h, fun _ => rfl, fun _ h => h, List.prefix_refl _⟩
  | completed n _ _ _ _ =>
    rw [(Session.completePath_same (s.unwound t n []) n).1]
    exact .modify (.of_ended _ _)
  | unwound n rest _ _ _ _ _ => exact .modify (.of_ended _ _)
  | finished n _ _ _ => exact .modify (.of_ended _ _)
  | discarded n _ _ _ => exact .modify (.of_ended _ _)
  | updated n u d _ _ _ _ hd =>
    exact .modify ⟨rfl, rfl, Update.kind_of_apply hd, id, id, fun _ => rfl, fun _ h => h, List.prefix_refl _⟩
  | tagged n tag _ _ hk hst =>
    refine .modify ⟨rfl, rfl, rfl, id, id, ?_, fun _ h => h, List.prefix_refl _⟩
    rintro (h | h)
    · exact absurd hst h
    · simp [hk] at h
  | linked c p _ _ _ hr => exact .resolve hr p
  | failed n c m _ _ _ _ _ => exact .modify (.of_rest _ _ _ _)
  | released n _ => exact .modify (.of_rest _ _ _ _)
  | attributed n k v _ _ => exact .modify (.of_rest _ _ _ _)
  | _ => exact .refl _

theorem Effects.later {t : Thread} {s s' : Session} {ms : List Mark} (h : Effects t s ms s') :
    s.forest.Later s'.forest := by
  induction h with
  | nil => exact .refl _
  | cons he _ ih => exact he.later.trans ih

theorem Step.later {x : Step} (h : x.before.Admits x.command) : x.before.forest.Later x.after.forest :=
  (Step.effects h).later

/-- Only a creation adds a node. -/
theorem Effect.size_eq {t : Thread} {s s' : Session} {ms : List Mark} (he : Effect t s ms s') :
    s'.forest.size = s.forest.size ∨ ∃ id d, s' = (s.create t id d).2 := by
  cases he with
  | created id d _ => exact .inr ⟨id, d, rfl⟩
  | begun n => exact .inl (by simp [Session.begun])
  | completed n =>
    rw [(Session.completePath_same (s.unwound t n []) n).1]
    exact .inl (Forest.size_modify ..)
  | linked c p => exact .inl (by simp [Forest.resolve])
  | unwound | finished | discarded | released | updated | failed | tagged | attributed =>
    exact .inl (Forest.size_modify ..)
  | _ => exact .inl rfl

/-- The owner of a node is the thread that created it. -/
theorem Effects.owner {t : Thread} {s s' : Session} {ms : List Mark} (h : Effects t s ms s') {n : NodeRef}
    (hn : n < s'.forest.size) :
    (s'.forest.get n).owner = if n < s.forest.size then (s.forest.get n).owner else t := by
  induction h with
  | nil => rw [if_pos hn]
  | @cons s s₁ s' _ _ he h ih =>
    rw [ih hn]
    have hlater := he.later
    rcases he.size_eq with hs | ⟨id, d, rfl⟩
    · rw [hs]
      split
      · rename_i hlt
        exact (hlater.node n hlt).owner
      · rfl
    · have hsize : (s.create t id d).2.forest.size = s.forest.size + 1 := Forest.size_add ..
      rw [hsize, Session.get_create]
      by_cases e : n = s.forest.size
      · simp [e]
      · have hlt : n < s.forest.size + 1 ↔ n < s.forest.size :=
          ⟨fun h => Nat.lt_of_le_of_ne (Nat.le_of_lt_succ h) e, Nat.lt_succ_of_lt⟩
        simp only [e, hlt, if_false]

theorem Step.owner {x : Step} (h : x.before.Admits x.command) {n : NodeRef} (hn : n < x.after.forest.size) :
    (x.after.forest.get n).owner =
      if n < x.before.forest.size then (x.before.forest.get n).owner else x.thread :=
  (Step.effects h).owner hn

/-! ## The points of a run -/

theorem Run.split {s₀ s : Session} {log : List Step} (h : Run s₀ s log) :
    ∀ l x l', log = l ++ x :: l' → Run s₀ x.before l ∧ x.before.Admits x.command := by
  induction h with
  | nil =>
    intro l x l' e
    simp at e
  | @step s log t c h hc ih =>
    intro l x l' e
    rcases List.eq_nil_or_concat l' with rfl | ⟨l', y, rfl⟩
    · obtain ⟨rfl, hx⟩ := List.append_inj' e rfl
      obtain rfl := List.singleton_inj.1 hx
      exact ⟨h, hc⟩
    · rw [List.concat_eq_append, ← List.cons_append, ← List.append_assoc] at e
      exact ih l x l' (List.append_inj' e rfl).1

theorem Run.of_mem {s₀ s : Session} {log : List Step} (h : Run s₀ s log) {x : Step} (hx : x ∈ log) :
    (∃ l, Run s₀ x.before l) ∧ x.before.Admits x.command := by
  obtain ⟨l, l', e⟩ := List.append_of_mem hx
  obtain ⟨hl, hc⟩ := h.split l x l' e
  exact ⟨⟨l, hl⟩, hc⟩

/-- What a node holds at some point of a run is there for the rest of it. -/
theorem Run.later {s₀ s : Session} {log : List Step} (h : Run s₀ s log) {x : Step} (hx : x ∈ log) :
    x.after.forest.Later s.forest := by
  induction h with
  | nil => cases hx
  | @step s log t c _ hc ih =>
    rcases List.mem_append.1 hx with hx | hx
    · exact (ih hx).trans (Step.later (x := ⟨s, t, c⟩) hc)
    · rw [List.mem_singleton.1 hx]
      exact .refl _

end CallPath
