import MessageHarvest.Call.Site
import MessageHarvest.Proofs.Script.Position
import MessageHarvest.Script.Module
import Mathlib.Data.List.Forall2

/-!
Which nodes of a tree are call sites, and that the visitor records each of them once, in pre-order.
-/

namespace MessageHarvest.Call

open Script (Node)

variable (config : Config) (file : Text)

inductive NamesTranslator : Node → Prop
  | member {object method : Text} {line objectLine : Nat}
      (object_mem : object ∈ config.translatorObjects)
      (method_mem : method ∈ config.translatorMethods) :
      NamesTranslator (.member line (.identifier objectLine object) method)
  | chain {object method : Text} {line memberLine objectLine : Nat}
      (object_mem : object ∈ config.translatorObjects)
      (method_mem : method ∈ config.translatorMethods) :
      NamesTranslator (.chain line (.member memberLine (.identifier objectLine object) method))

inductive Denotes : Node → Text → Prop
  | string {text : Text} {line : Nat} : Denotes (.string line (some text)) text
  | template {text : Text} {line : Nat} : Denotes (.template line [] [some text]) text

inductive NamesDomain (arguments : List Node) : Text → Prop
  | mk {domain : Text} {line : Nat} (many : 2 < arguments.length)
      (last : arguments.getLast? = some (.string line (some domain))) :
      NamesDomain arguments domain

inductive HasDomain (arguments : List Node) : Text → Prop
  | named {domain : Text} (named : NamesDomain arguments domain) : HasDomain arguments domain
  | unnamed (unnamed : ∀ domain, ¬ NamesDomain arguments domain) :
      HasDomain arguments config.defaultDomain

inductive Tells : List Node → MessageRecord → Prop
  | mk {first : Node} {others : List Node} {message domain : Text}
      (denotes : Denotes first message) (nonempty : message ≠ [])
      (resolved : HasDomain config (first :: others) domain) :
      Tells (first :: others) ⟨message, domain, file, some first.line⟩

inductive Calls (callee : Node) (arguments : List Node) : Node → Prop
  | call {line : Nat} : Calls callee arguments (.call line callee arguments)
  | optionalCall {line : Nat} : Calls callee arguments (.optionalCall line callee arguments)

inductive Yields : Node → MessageRecord → Prop
  | mk {node callee : Node} {arguments : List Node} {record : MessageRecord}
      (calls : Calls callee arguments node) (translator : NamesTranslator config callee)
      (tells : Tells config file arguments record) : Yields node record

theorem isTranslatorMember_iff (node : Node) :
    isTranslatorMember config node = true ↔ NamesTranslator config node := by
  constructor
  · intro h
    unfold isTranslatorMember at h
    split at h
    · rename_i objectLine object method accessed
      simp only [Config.isObject, Config.isMethod, Bool.and_eq_true, List.contains_iff_mem] at h
      unfold property? at accessed
      split at accessed <;> cases accessed
      · exact .member h.1 h.2
      · exact .chain h.1 h.2
    · simp at h
  · rintro (⟨ho, hm⟩ | ⟨ho, hm⟩) <;>
      simp [isTranslatorMember, property?, Config.isObject, Config.isMethod, ho, hm]

theorem isTranslatorCall_iff (callee : Node) :
    isTranslatorCall config callee = true ↔ NamesTranslator config callee := by
  unfold isTranslatorCall
  split
  · simp only [Bool.false_eq_true, false_iff]
    nofun
  · simp only [Bool.false_eq_true, false_iff]
    nofun
  · exact isTranslatorMember_iff config callee

theorem staticText?_eq_some_iff (node : Node) (text : Text) :
    staticText? node = some text ↔ Denotes node text := by
  constructor
  · intro h
    unfold staticText? at h
    split at h
    · subst h
      exact .string
    · subst h
      exact .template
    · simp at h
  · rintro ⟨⟩ <;> rfl

theorem domainText?_eq_some_iff (node : Node) (domain : Text) :
    domainText? node = some domain ↔ ∃ line, node = .string line (some domain) := by
  cases node <;> simp [domainText?]

theorem domainOf_eq_iff (arguments : List Node) (domain : Text) :
    domainOf config arguments = domain ↔ HasDomain config arguments domain := by
  have named_iff (arguments : List Node) (domain : Text) : NamesDomain arguments domain ↔
      2 < arguments.length ∧ arguments.getLast?.bind domainText? = some domain := by
    constructor
    · rintro ⟨many, last⟩
      exact ⟨many, by simp [last, domainText?]⟩
    · rintro ⟨many, last⟩
      obtain ⟨node, hn, hd⟩ := Option.bind_eq_some_iff.1 last
      obtain ⟨line, rfl⟩ := (domainText?_eq_some_iff node domain).1 hd
      exact ⟨many, hn⟩
  have resolved : HasDomain config arguments (domainOf config arguments) := by
    match arguments with
    | [] => exact .unnamed fun domain => by simp [named_iff]
    | [_] => exact .unnamed fun domain => by simp [named_iff]
    | [_, _] => exact .unnamed fun domain => by simp [named_iff]
    | a :: b :: third :: others =>
      cases hd : domainText? ((third :: others).getLast (by simp)) with
      | some domain =>
        simp only [domainOf, hd, Option.getD_some]
        have last := Option.bind_eq_some_iff.2 ⟨_, List.getLast?_eq_some_getLast (by simp), hd⟩
        exact .named ((named_iff ..).2 ⟨by simp, by simpa [List.getLast?_cons_cons] using last⟩)
      | none =>
        simp only [domainOf, hd, Option.getD_none]
        exact .unnamed fun domain => by
          simp [named_iff, List.getLast?_eq_some_getLast, hd]
  have unique {a b : Text} (ha : NamesDomain arguments a) (hb : NamesDomain arguments b) : a = b := by
    have := ((named_iff ..).1 ha).2.symm.trans ((named_iff ..).1 hb).2
    simpa using this
  constructor
  · rintro rfl
    exact resolved
  · -- two domains of one list are the same
    intro h
    generalize domainOf config arguments = other at resolved
    cases resolved with
    | named ha =>
      cases h with
      | named hb => exact unique ha hb
      | unnamed hb => exact absurd ha (hb _)
    | unnamed ha =>
      cases h with
      | named hb => exact absurd hb (ha _)
      | unnamed hb => rfl

theorem messageRecord?_eq_some_iff (arguments : List Node) (record : MessageRecord) :
    messageRecord? config file arguments = some record ↔ Tells config file arguments record := by
  constructor
  · intro h
    unfold messageRecord? at h
    split at h
    · simp at h
    · split at h
      · rename_i first others _ c text read
        obtain rfl := Option.some.inj h
        exact ⟨(staticText?_eq_some_iff _ _).1 read, by simp, (domainOf_eq_iff ..).1 rfl⟩
      · simp at h
  · rintro ⟨denotes, nonempty, resolved⟩
    obtain rfl := (domainOf_eq_iff ..).2 resolved
    obtain ⟨c, text, rfl⟩ := List.exists_cons_of_ne_nil nonempty
    simp [messageRecord?, (staticText?_eq_some_iff _ _).2 denotes]

def site? : Node → Option MessageRecord
  | .call _ callee arguments =>
      if isTranslatorCall config callee then messageRecord? config file arguments else none
  | .optionalCall _ callee arguments =>
      if isTranslatorMember config callee then messageRecord? config file arguments else none
  | _ => none

theorem site?_eq_some_iff (node : Node) (record : MessageRecord) :
    site? config file node = some record ↔ Yields config file node record := by
  cases node with
  | call line callee arguments =>
    simp only [site?, Option.ite_none_right_eq_some, isTranslatorCall_iff,
      messageRecord?_eq_some_iff]
    exact ⟨fun ⟨translator, tells⟩ => ⟨.call, translator, tells⟩,
      fun ⟨.call, translator, tells⟩ => ⟨translator, tells⟩⟩
  | optionalCall line callee arguments =>
    simp only [site?, Option.ite_none_right_eq_some, isTranslatorMember_iff,
      messageRecord?_eq_some_iff]
    exact ⟨fun ⟨translator, tells⟩ => ⟨.optionalCall, translator, tells⟩,
      fun ⟨.optionalCall, translator, tells⟩ => ⟨translator, tells⟩⟩
  | _ =>
    simp only [site?, reduceCtorEq, false_iff]
    exact fun ⟨calls, _, _⟩ => nomatch calls

section Visitor

theorem visitAll_eq_foldl (records : List MessageRecord) (nodes : List Node) :
    visitAll config file records nodes = nodes.foldl (visit config file) records := by
  induction nodes generalizing records with
  | nil => rw [visitAll, List.foldl_nil]
  | cons node nodes ih => rw [visitAll, ih, List.foldl_cons]

theorem visitOption_eq_foldl (records : List MessageRecord) (found : Option Node) :
    visitOption config file records found = found.toList.foldl (visit config file) records := by
  cases found <;> simp [visitOption]

/-- One case for each construct: the visitor goes into every field, once and in order. -/
theorem visit_eq_foldl (records : List MessageRecord) (node : Node) :
    visit config file records node =
      node.fields.foldl (visit config file) (records ++ (site? config file node).toList) := by
  cases node with
  | call line callee arguments =>
    simp only [visit, recordCall, site?, visitAll_eq_foldl, List.foldl_cons]
    split <;> simp
  | optionalCall line callee arguments =>
    simp only [visit, recordCall, site?, visitAll_eq_foldl, List.foldl_cons]
    split <;> simp
  | _ => simp [visit, site?, visitAll_eq_foldl, visitOption_eq_foldl]

variable {config file} in
theorem foldl_visit_eq {nodes : List Node}
    (each : ∀ part ∈ nodes, ∀ records,
      visit config file records part = records ++ sites config file part)
    (records : List MessageRecord) :
    nodes.foldl (visit config file) records =
      records ++ nodes.flatMap (sites config file) := by
  induction nodes generalizing records with
  | nil => simp
  | cons part parts ih =>
    obtain ⟨here, others⟩ := List.forall_mem_cons.1 each
    rw [List.foldl_cons, ih others, here, List.flatMap_cons, List.append_assoc]

theorem visit_eq (records : List MessageRecord) (node : Node) :
    visit config file records node = records ++ sites config file node := by
  induction node using Node.induct generalizing records with
  | step node below =>
    rw [sites, visit_eq_foldl, visit_eq_foldl config file [],
      foldl_visit_eq fun part mem records => below part mem records,
      foldl_visit_eq fun part mem records => below part mem records]
    simp

theorem sites_eq (node : Node) :
    sites config file node =
      (site? config file node).toList ++ node.fields.flatMap (sites config file) := by
  rw [sites, visit_eq_foldl, foldl_visit_eq fun part _ records => visit_eq config file records part,
    List.nil_append]

end Visitor

/-- The records of a part of a tree with their positions: in order, and no others. -/
structure Lists (sited : List Nat → MessageRecord → Prop)
    (found : List (List Nat × MessageRecord)) : Prop where
  sorted : found.Pairwise (fun a b => a.1 < b.1)
  mem_iff (position : List Nat) (record : MessageRecord) :
    (position, record) ∈ found ↔ sited position record

namespace Lists

variable {first later : List Nat → MessageRecord → Prop}
variable {found others : List (List Nat × MessageRecord)}

theorem append (here : Lists first found) (there : Lists later others)
    (before : ∀ p record q record', first p record → later q record' → p < q) :
    Lists (fun position record => first position record ∨ later position record)
      (found ++ others) where
  sorted := by
    refine List.pairwise_append.2 ⟨here.sorted, there.sorted, fun a ma b mb => ?_⟩
    exact before a.1 a.2 b.1 b.2 ((here.mem_iff ..).1 ma) ((there.mem_iff ..).1 mb)
  mem_iff position record := by rw [List.mem_append, here.mem_iff, there.mem_iff]

theorem under (i : Nat) (inner : Lists first found) :
    Lists (fun position record => ∃ below, position = i :: below ∧ first below record)
      (found.map fun listed => (i :: listed.1, listed.2)) where
  sorted := List.pairwise_map.2 (inner.sorted.imp List.Lex.cons)
  mem_iff position record := by
    simp only [List.mem_map, Prod.exists, Prod.mk.injEq, inner.mem_iff]
    exact ⟨fun ⟨below, _, sited, eq, rfl⟩ => ⟨below, eq.symm, sited⟩,
      fun ⟨below, eq, sited⟩ => ⟨below, record, sited, eq.symm, rfl⟩⟩

theorem congr (listed : Lists first found)
    (same : ∀ position record, first position record ↔ later position record) :
    Lists later found :=
  ⟨listed.sorted, fun position record => (listed.mem_iff position record).trans (same ..)⟩

end Lists

def SitedAt (tree : Node) (position : List Nat) (record : MessageRecord) : Prop :=
  ∃ node, tree.at? position = some node ∧ Yields config file node record

def SitedIn (first : Nat) (nodes : List Node) (position : List Nat) (record : MessageRecord) :
    Prop :=
  ∃ i below, position = (first + i) :: below ∧
    ∃ part, nodes[i]? = some part ∧ SitedAt config file part below record

theorem sitedIn_cons_iff (first : Nat) (part : Node) (parts : List Node) (position : List Nat)
    (record : MessageRecord) :
    SitedIn config file first (part :: parts) position record ↔
      (∃ below, position = first :: below ∧ SitedAt config file part below record) ∨
        SitedIn config file (first + 1) parts position record := by
  constructor
  · rintro ⟨i, below, at_i, inner, found, sited⟩
    cases i with
    | zero => exact .inl ⟨below, at_i, by cases found; exact sited⟩
    | succ i => exact .inr ⟨i, below, by rw [at_i, Nat.add_right_comm]; rfl, inner, found, sited⟩
  · rintro (⟨below, at_first, sited⟩ | ⟨i, below, at_i, inner, found, sited⟩)
    · exact ⟨0, below, at_first, part, rfl, sited⟩
    · exact ⟨i + 1, below, by rw [at_i, Nat.add_right_comm]; rfl, inner, found, sited⟩

theorem sitedAt_iff (node : Node) (position : List Nat) (record : MessageRecord) :
    SitedAt config file node position record ↔
      (position = [] ∧ Yields config file node record) ∨
        SitedIn config file 0 node.fields position record := by
  cases position with
  | nil => simp [SitedAt, SitedIn, Node.at?_nil]
  | cons i below =>
    simp only [SitedAt, SitedIn, Node.at?_cons, Option.bind_eq_some_iff, Nat.zero_add,
      List.cons.injEq, reduceCtorEq, false_and, false_or]
    constructor
    · rintro ⟨inner, ⟨part, found, at_below⟩, yields⟩
      exact ⟨i, below, ⟨rfl, rfl⟩, part, found, inner, at_below, yields⟩
    · rintro ⟨_, _, ⟨rfl, rfl⟩, part, found, inner, at_below, yields⟩
      exact ⟨inner, ⟨part, found, at_below⟩, yields⟩

theorem exists_lists (tree : Node) :
    ∃ found, Lists (SitedAt config file tree) found ∧ found.map (·.2) = sites config file tree := by
  induction tree using Node.induct with
  | step node below =>
    have forest (nodes : List Node) (inside : ∀ part ∈ nodes, part ∈ node.fields) (first : Nat) :
        ∃ found, Lists (SitedIn config file first nodes) found ∧
          found.map (·.2) = nodes.flatMap (sites config file) := by
      induction nodes generalizing first with
      | nil => exact ⟨[], ⟨.nil, by simp [SitedIn]⟩, rfl⟩
      | cons part parts ih =>
        obtain ⟨here, others⟩ := List.forall_mem_cons.1 inside
        obtain ⟨found, listed, records⟩ := below part here
        obtain ⟨later, laterListed, laterRecords⟩ := ih others (first + 1)
        refine ⟨_, ((listed.under first).append laterListed ?_).congr fun position record =>
          (sitedIn_cons_iff ..).symm, by simp [Function.comp_def, records, laterRecords]⟩
        rintro _ _ _ _ ⟨_, rfl, _⟩ ⟨i, _, rfl, _⟩
        exact List.Lex.rel (by omega)
    obtain ⟨found, listed, records⟩ := forest node.fields (fun _ => id) 0
    have own : Lists (fun position record => position = [] ∧ Yields config file node record)
        ((site? config file node).toList.map (([], ·))) := by
      refine ⟨?_, fun position record => ?_⟩
      · cases site? config file node <;> simp
      · simp [← site?_eq_some_iff, eq_comm, and_comm]
    refine ⟨_, (own.append listed ?_).congr fun position record => (sitedAt_iff ..).symm, ?_⟩
    · rintro _ _ _ _ ⟨rfl, _⟩ ⟨i, _, rfl, _⟩
      exact List.Lex.nil
    · rw [sites_eq]
      simp [Function.comp_def, records]

theorem mem_sites_iff (record : MessageRecord) (tree : Node) :
    record ∈ sites config file tree ↔
      ∃ position node, tree.at? position = some node ∧ Yields config file node record := by
  obtain ⟨found, listed, records⟩ := exists_lists config file tree
  simp only [← records, List.mem_map, Prod.exists, exists_eq_right, listed.mem_iff, SitedAt]

/-- The positions of the call sites, in pre-order and each once, are those of the records. -/
theorem sites_in_preorder (tree : Node) :
    ∃ positions : List (List Nat),
      positions.Pairwise (· < ·) ∧
      (∀ position, position ∈ positions ↔
        ∃ node record, tree.at? position = some node ∧ Yields config file node record) ∧
      List.Forall₂ (fun position record =>
          ∃ node, tree.at? position = some node ∧ Yields config file node record)
        positions (sites config file tree) := by
  -- positions and records are the two halves of one list
  obtain ⟨found, listed, records⟩ := exists_lists config file tree
  refine ⟨found.map (·.1), List.pairwise_map.2 listed.sorted, fun position => ?_, ?_⟩
  · simp only [List.mem_map, Prod.exists, exists_and_right, exists_eq_right, listed.mem_iff]
    exact exists_comm
  · rw [← records, List.forall₂_map_left_iff, List.forall₂_map_right_iff, List.forall₂_same]
    intro site mem
    exact (listed.mem_iff ..).1 mem

theorem sites_chain (line : Nat) (base : Node) :
    sites config file (.chain line base) = sites config file base := by
  rw [sites, visit, sites]

theorem sites_optionalCall (line : Nat) (callee : Node) (arguments : List Node) :
    sites config file (.optionalCall line callee arguments) =
      (site? config file (.optionalCall line callee arguments)).toList ++
        (sites config file callee ++ arguments.flatMap (sites config file)) := by
  rw [sites_eq, List.flatMap_cons]

theorem NamesTranslator.sites_eq_nil {callee : Node} (names : NamesTranslator config callee) :
    sites config file callee = [] := by
  cases names with
  | member => rw [sites, visit, visit]
  | chain => rw [sites_chain, sites, visit, visit]

/-- Whichever of its links has a question mark, a chain that ends with a call of a translator is recorded
once, and so is each call in the arguments. -/
theorem sites_translatorChain {callee : Node} (names : NamesTranslator config callee)
    (line callLine : Nat) (arguments : List Node) :
    sites config file (.chain line (.optionalCall callLine callee arguments)) =
      (messageRecord? config file arguments).toList ++ arguments.flatMap (sites config file) := by
  have translator := (isTranslatorMember_iff config callee).2 names
  rw [sites_chain, sites_optionalCall, names.sites_eq_nil, List.nil_append, site?,
    if_pos translator]

example :
    (Script.parseModule "Translator?.trans?.('x')".toList).toOption.map (sites default []) =
      some [⟨['x'], "messages".toList, [], some 1⟩] := by
  decide +kernel

end MessageHarvest.Call
