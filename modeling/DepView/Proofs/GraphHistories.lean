import DepView.Graph.History
import DepView.Proofs.LabelledDocument

/-!
Graphs and the calls that build them. What a graph holds is told by its calls and their answers
alone: a node for each identifier that has come up, in the order in which they came up first, under
the label that it was given last, and the edges that were added, in their order. A call that is
refused leaves no trace, except that an edge whose target is refused leaves its source.

The same holds of a registry of nodes as long as the identifiers that count as texts are texts:
call by call, it then does what the graph does. Bytes as an identifier break it, since a node is put
under the bytes and not under the text that they count as.
-/

namespace DepView.Graph

/-- A call and its answer. -/
structure Exchange where
  call : Call
  answer : Except CallFault Answer

namespace Exchange

/-- The identifiers that come up in a call, in this order. -/
def mentioned (x : Exchange) : List Text :=
  match x.call, x.answer with
  | _, .ok (.node n) => [n.id]
  | _, .ok (.edge e) => [e.source, e.target]
  | .addEdge (.str source) _, .error _ => [source]
  | _, .error _ => []

/-- The node that a call declares, with its label. -/
def declared (x : Exchange) : List Node :=
  match x.call, x.answer with
  | .addNode _ _, .ok (.node n) => [n]
  | _, _ => []

/-- The edge that a call appends. -/
def drawn (x : Exchange) : List Edge :=
  match x.call, x.answer with
  | .addEdge _ _, .ok (.edge e) => [e]
  | _, _ => []

theorem id_mem_mentioned {x : Exchange} {n : Node} (h : n ∈ x.declared) : n.id ∈ x.mentioned := by
  obtain ⟨call, answer⟩ := x
  cases call with
  | addNode id label =>
    cases answer with
    | error fault => cases h
    | ok answer =>
      cases answer with
      | node other =>
        rw [List.mem_singleton.mp h]
        exact List.mem_singleton_self other.id
      | edge edge => cases h
  | _ => cases h

theorem ends_mem_mentioned {x : Exchange} {e : Edge} (h : e ∈ x.drawn) :
    e.source ∈ x.mentioned ∧ e.target ∈ x.mentioned := by
  obtain ⟨call, answer⟩ := x
  cases call with
  | addEdge source target =>
    cases answer with
    | error fault => cases h
    | ok answer =>
      cases answer with
      | node n => cases h
      | edge other =>
        rw [List.mem_singleton.mp h]
        simp [mentioned]
  | _ => cases h

end Exchange

/-- The exchanges of some calls on a graph, in turn. -/
def exchanges (g : Graph) : List Call → List Exchange
  | [] => []
  | call :: calls => ⟨call, (g.apply call).2⟩ :: (g.apply call).1.exchanges calls

/-- The graph after some calls. -/
def run (g : Graph) (calls : List Call) : Graph :=
  calls.foldl (fun g call => (g.apply call).1) g

theorem exchanges_append (g : Graph) (calls more : List Call) :
    g.exchanges (calls ++ more) = g.exchanges calls ++ (g.run calls).exchanges more := by
  induction calls generalizing g with
  | nil => rfl
  | cons call calls ih =>
    rw [List.cons_append, exchanges, exchanges, ih, List.cons_append]
    rfl

/-- What one call does. -/
inductive Applies (g : Graph) : Call → Graph × Except CallFault Answer → Prop
  | declares (id label : Text) (given : Json)
    (hgiven : given = .str label ∨ given = .null ∧ label = id) :
    Applies g (.addNode (.str id) given) (g.addNode id label, .ok (.node ⟨id, label⟩))
  | ensures (n : Node) :
    Applies g (.ensureNode (.str n.id)) (g.ensureNode n.id, .ok (.node n))
  | draws (source target : Text) :
    Applies g (.addEdge (.str source) (.str target))
      (g.addEdge source target, .ok (.edge ⟨source, target⟩))
  | draws_half (source : Text) (target : Json) (htarget : ∀ id, target ≠ .str id)
    (fault : CallFault) :
    Applies g (.addEdge (.str source) target) (g.ensureNode source, .error fault)
  | refuses (call : Call) (hcall : ∀ source target, call ≠ .addEdge (.str source) target)
    (fault : CallFault) : Applies g call (g, .error fault)

theorem tryEnsureNode_text (g : Graph) (id : Text) :
    ∃ n, n.id = id ∧ g.tryEnsureNode (.str id) = (g.ensureNode id, .ok n) := by
  unfold tryEnsureNode ensureNode
  rw [lookup]
  cases hfind : g.find? id with
  | none => exact ⟨⟨id, id⟩, rfl, rfl⟩
  | some n => exact ⟨n, by simpa using List.find?_some hfind, rfl⟩

theorem tryEnsureNode_other (g : Graph) {value : Json} (h : ∀ id, value ≠ .str id) :
    ∃ fault, g.tryEnsureNode value = (g, .error fault) := by
  cases value with
  | str id => exact absurd rfl (h id)
  | arr items => exact ⟨.notLookedUp, rfl⟩
  | obj members => exact ⟨.notLookedUp, rfl⟩
  | _ => exact ⟨.notText, rfl⟩

theorem text_or_other (value : Json) : (∃ id, value = .str id) ∨ ∀ id, value ≠ .str id := by
  cases value with
  | str id => exact Or.inl ⟨id, rfl⟩
  | _ => exact Or.inr fun id h => nomatch h

theorem applies_apply (g : Graph) (call : Call) : Applies g call (g.apply call) := by
  cases call with
  | addNode id label =>
    rcases text_or_other id with ⟨id, rfl⟩ | hid
    · cases label with
      | str label => exact .declares id label (.str label) (Or.inl rfl)
      | null => exact .declares id id .null (Or.inr ⟨rfl, rfl⟩)
      | _ => exact .refuses _ (by simp) .notText
    · have hrefused : g.apply (.addNode id label) = (g, .error .notText) := by
        cases id with
        | str id => exact absurd rfl (hid id)
        | _ => rfl
      rw [hrefused]
      exact .refuses _ (by simp) .notText
  | ensureNode id =>
    rcases text_or_other id with ⟨id, rfl⟩ | hid
    · obtain ⟨n, rfl, hn⟩ := g.tryEnsureNode_text id
      rw [apply, hn]
      exact .ensures n
    · obtain ⟨fault, hfault⟩ := g.tryEnsureNode_other hid
      rw [apply, hfault]
      exact .refuses _ (by simp) fault
  | addEdge source target =>
    rcases text_or_other source with ⟨source, rfl⟩ | hsource
    · obtain ⟨s, rfl, hs⟩ := g.tryEnsureNode_text source
      rcases text_or_other target with ⟨target, rfl⟩ | htarget
      · obtain ⟨t, rfl, ht⟩ := (g.ensureNode s.id).tryEnsureNode_text target
        rw [apply, tryAddEdge, hs]
        dsimp only
        rw [ht]
        exact .draws s.id t.id
      · obtain ⟨fault, hfault⟩ := (g.ensureNode s.id).tryEnsureNode_other htarget
        rw [apply, tryAddEdge, hs]
        dsimp only
        rw [hfault]
        exact .draws_half s.id target htarget fault
    · obtain ⟨fault, hfault⟩ := g.tryEnsureNode_other hsource
      rw [apply, tryAddEdge, hfault]
      exact .refuses _ (fun _ _ h => hsource _ (Call.addEdge.inj h).1) fault

/-- What a call leaves and its answer, as one of these. -/
theorem exists_applies (g : Graph) (call : Call) :
    ∃ after answer, g.apply call = (after, answer) ∧ Applies g call (after, answer) :=
  ⟨_, _, rfl, applies_apply g call⟩

theorem apply_addNode_eq_node {g : Graph} {id label : Json} {n : Node} :
    (g.apply (.addNode id label)).2 = .ok (.node n) ↔
      id = .str n.id ∧ (label = .str n.label ∨ label = .null ∧ n.label = n.id) := by
  constructor
  · intro hanswer
    obtain ⟨after, answer, hresult, happlies⟩ := g.exists_applies (.addNode id label)
    rw [hresult] at hanswer
    cases happlies with
    | declares id label given hgiven =>
      obtain rfl := Answer.node.inj (Except.ok.inj hanswer)
      exact ⟨rfl, hgiven⟩
    | refuses => cases hanswer
  · rintro ⟨rfl, rfl | ⟨rfl, hself⟩⟩
    · rfl
    · rw [apply, tryAddNode]
      exact congrArg (fun label => Except.ok (Answer.node ⟨n.id, label⟩)) hself.symm

theorem id_of_apply_ensureNode {g : Graph} {id : Json} {n : Node}
    (hanswer : (g.apply (.ensureNode id)).2 = .ok (.node n)) : id = .str n.id := by
  obtain ⟨after, answer, hresult, happlies⟩ := g.exists_applies (.ensureNode id)
  rw [hresult] at hanswer
  cases happlies with
  | ensures other =>
    obtain rfl := Answer.node.inj (Except.ok.inj hanswer)
    rfl
  | refuses => cases hanswer

theorem apply_addEdge_eq_edge {g : Graph} {source target : Json} {e : Edge} :
    (g.apply (.addEdge source target)).2 = .ok (.edge e) ↔
      source = .str e.source ∧ target = .str e.target := by
  constructor
  · intro hanswer
    obtain ⟨after, answer, hresult, happlies⟩ := g.exists_applies (.addEdge source target)
    rw [hresult] at hanswer
    cases happlies with
    | draws source target =>
      obtain rfl := Answer.edge.inj (Except.ok.inj hanswer)
      exact ⟨rfl, rfl⟩
    | draws_half => cases hanswer
    | refuses => cases hanswer
  · rintro ⟨rfl, rfl⟩
    obtain ⟨after, answer, hresult, happlies⟩ :=
      g.exists_applies (.addEdge (.str e.source) (.str e.target))
    rw [hresult]
    cases happlies with
    | draws => rfl
    | draws_half source target htarget => exact absurd rfl (htarget e.target)
    | refuses call hcall => exact absurd rfl (hcall e.source (.str e.target))

/-- A call that is refused leaves at most the source of an edge. -/
theorem apply_of_error {g : Graph} {call : Call} {fault : CallFault}
    (hanswer : (g.apply call).2 = .error fault) :
    (g.apply call).1 = g ∨ ∃ source target, call = .addEdge (.str source) target ∧
      (g.apply call).1 = g.ensureNode source := by
  obtain ⟨after, answer, hresult, happlies⟩ := g.exists_applies call
  rw [hresult] at hanswer ⊢
  cases happlies with
  | declares => cases hanswer
  | ensures => cases hanswer
  | draws => cases hanswer
  | draws_half source target => exact Or.inr ⟨source, target, rfl, rfl⟩
  | refuses => exact Or.inl rfl

/-! Whole histories. -/

theorem lastLabel_concat (declared : List Node) (n : Node) :
    lastLabel (declared ++ [n]) =
      fun id => if id = n.id then n.label else lastLabel declared id := by
  funext id
  unfold lastLabel Table.last?
  rw [List.map_append, List.filter_append]
  by_cases h : id = n.id
  · simp [h]
  · simp [h, Ne.symm h]

/-- What a graph holds after some exchanges. -/
def recorded (past : List Exchange) : Graph :=
  ⟨labelled (lastLabel (past.flatMap Exchange.declared)) (past.flatMap Exchange.mentioned),
    past.flatMap Exchange.drawn⟩

theorem lastLabel_of_not_mentioned {past : List Exchange} {id : Text}
    (h : id ∉ past.flatMap Exchange.mentioned) :
    lastLabel (past.flatMap Exchange.declared) id = id := by
  apply lastLabel_of_notMem
  intro hmem
  obtain ⟨n, hn, rfl⟩ := List.mem_map.mp hmem
  obtain ⟨x, hx, hn⟩ := List.mem_flatMap.mp hn
  exact h (List.mem_flatMap.mpr ⟨x, hx, Exchange.id_mem_mentioned hn⟩)

theorem apply_recorded (past : List Exchange) (call : Call) :
    ((recorded past).apply call).1 =
      recorded (past ++ [⟨call, ((recorded past).apply call).2⟩]) := by
  have hself : ∀ id, id ∉ past.flatMap Exchange.mentioned →
      lastLabel (past.flatMap Exchange.declared) id = id := fun id => lastLabel_of_not_mentioned
  have hsource : ∀ source id, id ∉ past.flatMap Exchange.mentioned ++ [source] →
      lastLabel (past.flatMap Exchange.declared) id = id :=
    fun source id hid => hself id fun hmem => hid (List.mem_append_left _ hmem)
  obtain ⟨after, answer, hresult, happlies⟩ := (recorded past).exists_applies call
  rw [hresult]
  unfold recorded
  simp only [List.flatMap_append, List.flatMap_singleton]
  cases happlies with
  | declares id label given hgiven =>
    rw [recorded, addNode_labelled]
    simp [Exchange.declared, Exchange.mentioned, Exchange.drawn, lastLabel_concat]
  | ensures n =>
    rw [recorded, ensureNode_labelled _ (hself n.id)]
    simp [Exchange.declared, Exchange.mentioned, Exchange.drawn]
  | draws source target =>
    rw [recorded, addEdge, ensureNode_labelled _ (hself source),
      ensureNode_labelled _ (hsource source target)]
    simp [Exchange.declared, Exchange.mentioned, Exchange.drawn]
  | draws_half source target htarget fault =>
    rw [recorded, ensureNode_labelled _ (hself source)]
    simp [Exchange.declared, Exchange.mentioned, Exchange.drawn]
  | refuses call hcall fault =>
    have hmentioned : Exchange.mentioned ⟨call, .error fault⟩ = [] := by
      cases call with
      | addEdge source target =>
        cases source with
        | str source => exact absurd rfl (hcall source target)
        | _ => rfl
      | _ => rfl
    simp [hmentioned, recorded, Exchange.declared, Exchange.drawn]

/-- A graph holds what its history tells. -/
theorem ofCalls_eq_recorded (calls : List Call) :
    ofCalls calls = recorded (empty.exchanges calls) := by
  induction calls using List.reverseRecOn with
  | nil => rfl
  | append_singleton calls call ih =>
    have hlast : ofCalls (calls ++ [call]) = ((ofCalls calls).apply call).1 := by
      rw [ofCalls, ofCalls, List.foldl_append]
      rfl
    have hrun : empty.run calls = ofCalls calls := rfl
    rw [hlast, exchanges_append, hrun, ih]
    exact apply_recorded _ call

theorem ids_recorded (past : List Exchange) :
    (recorded past).ids = (past.flatMap Exchange.mentioned).eraseDups := by
  simp [recorded, ids, labelled, Function.comp_def]

/-- How a graph follows from the calls on an empty one, and what one more call can do to it. -/
structure FollowsHistory (calls : List Call) : Prop where
  nodes : (ofCalls calls).nodes =
    labelled (lastLabel ((empty.exchanges calls).flatMap Exchange.declared))
      ((empty.exchanges calls).flatMap Exchange.mentioned)
  edges : (ofCalls calls).edges = (empty.exchanges calls).flatMap Exchange.drawn
  nodup : (ofCalls calls).ids.Nodup
  lasting : ∀ more, (ofCalls calls).ids <+: (ofCalls (calls ++ more)).ids
  endpoints : ∀ e ∈ (ofCalls calls).edges,
    e.source ∈ (ofCalls calls).ids ∧ e.target ∈ (ofCalls calls).ids
  declares : ∀ id label n, ((ofCalls calls).apply (.addNode id label)).2 = .ok (.node n) ↔
    id = .str n.id ∧ (label = .str n.label ∨ label = .null ∧ n.label = n.id)
  ensures : ∀ id n, ((ofCalls calls).apply (.ensureNode id)).2 = .ok (.node n) → id = .str n.id
  draws : ∀ source target e, ((ofCalls calls).apply (.addEdge source target)).2 = .ok (.edge e) ↔
    source = .str e.source ∧ target = .str e.target
  refuses : ∀ call fault, ((ofCalls calls).apply call).2 = .error fault →
    ((ofCalls calls).apply call).1 = ofCalls calls ∨
      ∃ source target, call = .addEdge (.str source) target ∧
        ((ofCalls calls).apply call).1 = (ofCalls calls).ensureNode source

/-- Whatever values of JSON the arguments of its calls are, a graph follows from its history. -/
theorem followsHistory (calls : List Call) : FollowsHistory calls where
  nodes := by rw [ofCalls_eq_recorded, recorded]
  edges := by rw [ofCalls_eq_recorded, recorded]
  nodup := by
    rw [ofCalls_eq_recorded, ids_recorded]
    exact nodup_eraseDups _
  lasting more := by
    rw [ofCalls_eq_recorded, ofCalls_eq_recorded, ids_recorded, ids_recorded, exchanges_append,
      List.flatMap_append, List.eraseDups_append]
    exact List.prefix_append _ _
  endpoints e he := by
    rw [ofCalls_eq_recorded] at he ⊢
    obtain ⟨x, hx, he⟩ := List.mem_flatMap.mp he
    obtain ⟨hsource, htarget⟩ := Exchange.ends_mem_mentioned he
    rw [ids_recorded, List.mem_eraseDups, List.mem_eraseDups]
    exact ⟨List.mem_flatMap.mpr ⟨x, hx, hsource⟩, List.mem_flatMap.mpr ⟨x, hx, htarget⟩⟩
  declares _ _ _ := apply_addNode_eq_node
  ensures _ _ := id_of_apply_ensureNode
  draws _ _ _ := apply_addEdge_eq_edge
  refuses _ _ := apply_of_error

/-! Registries of nodes. A call on the registry of a graph is a call on the graph, if what counts as
an identifier in it is a text. -/

namespace Value

/-- What counts as a text and can be looked up is looked up as this text. -/
def IsPlain (v : Value) : Prop :=
  ∀ text key, v.text? = some text → v.key? = .ok (some key) → key = .text text

/-- What a plain identifier is among the values of JSON. -/
def idJson : Value → Json
  | json value => value
  | buffer _ => .arr []
  | _ => .null

/-- What a label is among the values of JSON. -/
def labelJson : Value → Json
  | json value => value
  | label => (label.text?.map .str).getD (.bool false)

/-- A plain value is a text, or it names no node. -/
theorem IsPlain.cases {v : Value} (h : v.IsPlain) :
    (∃ text, v = .json (.str text)) ∨ ((∀ text, v.idJson ≠ .str text) ∧
      ((∃ fault, v.key? = .error fault) ∨ v.text? = none ∧
        ∃ key, v.key? = .ok key ∧ ∀ text, key ≠ some (.text text))) := by
  cases v with
  | json value =>
    cases value with
    | str text => exact Or.inl ⟨text, rfl⟩
    | arr items | obj members => exact Or.inr ⟨nofun, Or.inl ⟨_, rfl⟩⟩
    | _ => exact Or.inr ⟨nofun, Or.inr ⟨rfl, _, rfl, nofun⟩⟩
  | buffer content => exact Or.inr ⟨nofun, Or.inl ⟨_, rfl⟩⟩
  | bytes content =>
    cases htext : Text.Utf8.decode? content with
    | some text => exact nomatch h text _ htext rfl
    | none => exact Or.inr ⟨nofun, Or.inr ⟨htext, _, rfl, nofun⟩⟩
  | member identity text => exact nomatch h text _ rfl rfl

end Value

namespace Registry

/-- The registry of a graph, where each node stands under its identifier. -/
def ofGraph (g : Graph) : Registry :=
  ⟨g.nodes.map fun n => (.text n.id, n), g.edges⟩

theorem graph_ofGraph (g : Graph) : (ofGraph g).graph = g := by
  simp [graph, ofGraph, Function.comp_def]

theorem lookup_text (nodes : List Node) (id : Text) :
    List.lookup (Key.text id) (nodes.map fun n => (.text n.id, n)) =
      nodes.find? fun n => n.id == id := by
  induction nodes with
  | nil => rfl
  | cons n rest ih =>
    rw [List.map_cons, List.lookup_cons, List.find?_cons, ih]
    have hkey : (Key.text id == Key.text n.id) = (n.id == id) := by
      rw [Bool.eq_iff_iff, beq_iff_eq, beq_iff_eq, Key.text.injEq]
      exact eq_comm
    rw [hkey]

theorem lookup_other (nodes : List Node) {key : Key} (h : ∀ text, key ≠ .text text) :
    List.lookup key (nodes.map fun n => (.text n.id, n)) = none := by
  rw [List.lookup_eq_none_iff]
  intro entry hentry
  obtain ⟨n, _, rfl⟩ := List.mem_map.mp hentry
  simpa using h n.id

theorem put_text (nodes : List Node) (node : Node) :
    put (.text node.id) node (nodes.map fun n => (.text n.id, n)) =
      (Graph.put node nodes).map fun n => (.text n.id, n) := by
  induction nodes with
  | nil => rfl
  | cons n rest ih =>
    rw [List.map_cons, put, Graph.put, ih]
    by_cases h : n.id = node.id
    · simp [h]
    · simp [h]

/-- A registry does what a graph does: it becomes the registry of the graph, and one is refused if
the other is. -/
def Tells {α : Type} (result : Registry × Except CallFault α)
    (told : Graph × Except CallFault α) : Prop :=
  result.1 = ofGraph told.1 ∧ result.2.toOption = told.2.toOption

theorem tells_error {α : Type} {result : Registry × Except CallFault α}
    {told : Graph × Except CallFault α} {g : Graph}
    (hresult : ∃ fault, result = (ofGraph g, .error fault))
    (htold : ∃ fault, told = (g, .error fault)) : Tells result told := by
  obtain ⟨_, rfl⟩ := hresult
  obtain ⟨_, rfl⟩ := htold
  exact ⟨rfl, rfl⟩

variable (g : Graph)

theorem text?_labelOf_json (id : Text) (label : Value) :
    (labelOf (.json (.str id)) label).text? =
      match label.labelJson with
      | .str text => some text
      | .null => some id
      | _ => none := by
  cases label with
  | json value => cases value <;> rfl
  | bytes content | buffer content =>
    rw [labelOf, Value.labelJson, Value.text?]
    · cases Text.Utf8.decode? content <;> rfl
    all_goals exact nofun
  | member identity text => rfl

theorem tryAddNode_text (id : Text) (label : Value) :
    Tells ((ofGraph g).tryAddNode (.json (.str id)) label)
      (g.tryAddNode (.str id) label.labelJson) := by
  have hlabel := text?_labelOf_json id label
  have hput := fun label => put_text g.nodes ⟨id, label⟩
  unfold tryAddNode Graph.tryAddNode
  rw [hlabel]
  cases label.labelJson with
  | str text => exact ⟨congrArg (Registry.mk · g.edges) (hput text), rfl⟩
  | null => exact ⟨congrArg (Registry.mk · g.edges) (hput id), rfl⟩
  | _ => exact ⟨rfl, rfl⟩

theorem tryEnsureNode_json (id : Text) :
    Tells ((ofGraph g).tryEnsureNode (.json (.str id))) (g.tryEnsureNode (.str id)) := by
  have hlookup : (ofGraph g).lookup (.json (.str id)) = .ok (g.find? id) :=
    congrArg Except.ok (lookup_text g.nodes id)
  unfold tryEnsureNode Graph.tryEnsureNode
  rw [hlookup, Graph.lookup]
  cases g.find? id with
  | some n => exact ⟨rfl, rfl⟩
  | none => exact tryAddNode_text g id (.json .null)

/-- A plain value that is no text names no node. -/
theorem refuses_of_plain {id : Value} (h : (∃ fault, id.key? = .error fault) ∨ id.text? = none ∧
    ∃ key, id.key? = .ok key ∧ ∀ text, key ≠ some (.text text)) :
    (∃ fault, (ofGraph g).tryEnsureNode id = (ofGraph g, .error fault)) ∧
      ∀ label, ∃ fault, (ofGraph g).tryAddNode id label = (ofGraph g, .error fault) := by
  have hadd : ∀ label, ∃ fault, (ofGraph g).tryAddNode id label = (ofGraph g, .error fault) := by
    intro label
    unfold tryAddNode
    rcases h with ⟨fault, hkey⟩ | ⟨htext, _⟩
    · rw [hkey]
      cases id.text? <;> cases (labelOf id label).text? <;> exact ⟨_, rfl⟩
    · rw [htext]
      exact ⟨_, rfl⟩
  refine ⟨?_, hadd⟩
  unfold tryEnsureNode lookup
  rcases h with ⟨fault, hkey⟩ | ⟨_, key, hkey, hother⟩
  · rw [hkey]
    exact ⟨fault, rfl⟩
  · have hnone : (key.bind fun key => List.lookup key (ofGraph g).entries) = none := by
      cases key with
      | none => rfl
      | some key => exact lookup_other g.nodes fun text heq => hother text (congrArg some heq)
    rw [hkey, Except.map, hnone]
    exact hadd _

theorem tells_tryEnsureNode {id : Value} (h : id.IsPlain) :
    Tells ((ofGraph g).tryEnsureNode id) (g.tryEnsureNode id.idJson) := by
  rcases h.cases with ⟨text, rfl⟩ | ⟨hother, hrefused⟩
  · exact tryEnsureNode_json g text
  · exact tells_error (refuses_of_plain g hrefused).1 (g.tryEnsureNode_other hother)

theorem tells_tryAddNode {id : Value} (h : id.IsPlain) (label : Value) :
    Tells ((ofGraph g).tryAddNode id label) (g.tryAddNode id.idJson label.labelJson) := by
  rcases h.cases with ⟨text, rfl⟩ | ⟨hother, hrefused⟩
  · exact tryAddNode_text g text label
  · refine tells_error ((refuses_of_plain g hrefused).2 label) ⟨.notText, ?_⟩
    unfold Graph.tryAddNode
    cases hid : id.idJson with
    | str text => exact absurd hid (hother text)
    | _ => rfl

/-- A plain value that names a node is the text of its identifier. -/
theorem text?_of_ensured {id : Value} (h : id.IsPlain) {after : Graph} {n : Node}
    (hn : g.tryEnsureNode id.idJson = (after, .ok n)) : id.text? = some n.id := by
  rcases h.cases with ⟨text, rfl⟩ | ⟨hother, _⟩
  · obtain ⟨m, rfl, hm⟩ := g.tryEnsureNode_text text
    cases hm.symm.trans hn
    rfl
  · obtain ⟨fault, hfault⟩ := g.tryEnsureNode_other hother
    cases hfault.symm.trans hn

/-- One is refused where the other is, and else the answers are the same. -/
theorem Tells.cases {α : Type} {result : Registry × Except CallFault α}
    {told : Graph × Except CallFault α} (h : Tells result told) :
    (∃ after fault other, result = (ofGraph after, .error fault) ∧ told = (after, .error other)) ∨
      ∃ after a, result = (ofGraph after, .ok a) ∧ told = (after, .ok a) := by
  obtain ⟨r, answer⟩ := result
  obtain ⟨after, other⟩ := told
  obtain ⟨hr, hanswer⟩ := h
  dsimp only at hr
  subst hr
  cases answer with
  | error fault =>
    cases other with
    | error other => exact Or.inl ⟨after, fault, other, rfl, rfl⟩
    | ok a => cases hanswer
  | ok a =>
    cases other with
    | error other => cases hanswer
    | ok b =>
      cases hanswer
      exact Or.inr ⟨after, a, rfl, rfl⟩

theorem tells_tryAddEdge {source target : Value} (hsource : source.IsPlain)
    (htarget : target.IsPlain) :
    Tells ((ofGraph g).tryAddEdge source target) (g.tryAddEdge source.idJson target.idJson) := by
  unfold tryAddEdge Graph.tryAddEdge
  rcases (tells_tryEnsureNode g hsource).cases with ⟨between, _, _, hr, hg⟩ | ⟨between, s, hr, hg⟩
  · rw [hr, hg]
    exact ⟨rfl, rfl⟩
  rw [hr, hg]
  dsimp only
  have hs := text?_of_ensured g hsource hg
  rcases (tells_tryEnsureNode between htarget).cases with ⟨after, _, _, hr, hg⟩ | ⟨after, t, hr, hg⟩
  · rw [hr, hg]
    exact ⟨rfl, rfl⟩
  rw [hr, hg, hs, text?_of_ensured between htarget hg]
  exact ⟨rfl, rfl⟩

/-- The identifiers of a call are plain. -/
def Call.IsPlain : Call → Prop
  | .addNode id _ => id.IsPlain
  | .ensureNode id => id.IsPlain
  | .addEdge source target => source.IsPlain ∧ target.IsPlain

/-- What a call is among those with values of JSON. -/
def Call.told : Call → Graph.Call
  | .addNode id label => .addNode id.idJson label.labelJson
  | .ensureNode id => .ensureNode id.idJson
  | .addEdge source target => .addEdge source.idJson target.idJson

theorem Tells.map {α β : Type} {result : Registry × Except CallFault α}
    {told : Graph × Except CallFault α} (h : Tells result told) (f : α → β) :
    Tells (result.1, result.2.map f) (told.1, told.2.map f) := by
  rcases h.cases with ⟨_, _, _, rfl, rfl⟩ | ⟨_, _, rfl, rfl⟩ <;> exact ⟨rfl, rfl⟩

theorem tells_apply {call : Call} (h : call.IsPlain) :
    Tells ((ofGraph g).apply call) (g.apply call.told) := by
  cases call with
  | addNode id label => exact (tells_tryAddNode g h label).map Answer.node
  | ensureNode id => exact (tells_tryEnsureNode g h).map Answer.node
  | addEdge source target => exact (tells_tryAddEdge g h.1 h.2).map Answer.edge

theorem run_ofGraph {calls : List Call} (h : ∀ call ∈ calls, call.IsPlain) :
    (ofGraph g).run calls = ofGraph (g.run (calls.map Call.told)) ∧
      ((ofGraph g).answers calls).map Except.toOption =
        (g.exchanges (calls.map Call.told)).map (·.answer.toOption) := by
  induction calls generalizing g with
  | nil => exact ⟨rfl, rfl⟩
  | cons call calls ih =>
    obtain ⟨hafter, hanswer⟩ := tells_apply g (h call List.mem_cons_self)
    obtain ⟨hrun, hanswers⟩ := ih (g.apply call.told).1 fun other hother =>
      h other (List.mem_cons_of_mem _ hother)
    rw [run, List.foldl_cons, hafter, answers, hafter, List.map_cons, List.map_cons, exchanges,
      List.map_cons, hanswer, hanswers]
    exact ⟨hrun, rfl⟩

end Registry

/-- Where identifiers are plain, a registry follows from the history of its calls, whatever else
their arguments are. -/
theorem registry_followsHistory {calls : List Registry.Call}
    (hplain : ∀ call ∈ calls, call.IsPlain) :
    let told := calls.map Registry.Call.told
    (Registry.empty.run calls).graph = ofCalls told ∧
      (Registry.empty.answers calls).map Except.toOption =
        (empty.exchanges told).map (·.answer.toOption) ∧
      FollowsHistory told := by
  intro told
  have hempty : Registry.empty = Registry.ofGraph empty := rfl
  obtain ⟨hrun, hanswers⟩ := Registry.run_ofGraph empty hplain
  rw [hempty, hrun, Registry.graph_ofGraph]
  exact ⟨rfl, hanswers, followsHistory told⟩

/-- Bytes that can be changed are no identifier, and bytes may be a label. -/
theorem registry_followsHistory_refused :
    let calls : List Registry.Call :=
      [.addEdge (.json (.str ['a'])) (.buffer [98]), .addNode (.json (.str ['a'])) (.bytes [99])]
    (∀ call ∈ calls, call.IsPlain) ∧
      (Registry.empty.run calls).graph = ⟨[⟨['a'], ['c']⟩], []⟩ ∧
      (Registry.empty.answers calls).map Except.toOption = [none, some (.node ⟨['a'], ['c']⟩)] ∧
      FollowsHistory (calls.map Registry.Call.told) := by
  intro calls
  have htext : (Value.json (.str ['a'])).IsPlain := by
    rintro _ _ ⟨⟩ ⟨⟩
    rfl
  have hplain : ∀ call ∈ calls, call.IsPlain :=
    List.forall_mem_cons.mpr ⟨⟨htext, nofun⟩, List.forall_mem_singleton.mpr htext⟩
  obtain ⟨hgraph, hanswers, hfollows⟩ := registry_followsHistory hplain
  refine ⟨hplain, hgraph.trans ?_, hanswers.trans ?_, hfollows⟩
  · decide +kernel
  · decide +kernel

/-- Bytes count as a text, but a node is put under the bytes. So two nodes have one identifier. -/
theorem registry_bytes_twice :
    let calls : List Registry.Call :=
      [.addNode (.bytes [97]) (.json .null), .addNode (.json (.str ['a'])) (.json .null)]
    (Registry.empty.run calls).graph.ids = [['a'], ['a']] ∧
      ¬ (Registry.empty.run calls).graph.ids.Nodup := by
  intro calls
  have hids : (Registry.empty.run calls).graph.ids = [['a'], ['a']] := by decide +kernel
  rw [hids]
  exact ⟨rfl, by simp⟩

end DepView.Graph
