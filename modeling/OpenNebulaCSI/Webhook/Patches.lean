import Mathlib.Logic.Function.Basic
import OpenNebulaCSI.Controller.Types

/-!
# The patches of the admission webhook

When a pod is created, the webhook makes it prefer the node its volumes were attached to last, or,
in maintenance mode, require that node. It answers with a JSON patch (RFC 6902).

The patch for the preference adds the parents that the pod lacks and loses nothing
(`preference_patch_applied`). The patch for the requirement adds the node to every term of the
required node affinity, except to those that list it already, and these may list others too; and a
term that matches no node, since it is empty, matches the node afterwards
(`required_patch_exact_iff`).
-/

namespace OpenNebulaCSI.Webhook

open Go Controller

/-! ## JSON patches -/

/-- JSON documents; the fields of an object are a map. -/
inductive Json where
  | string (value : String)
  | number (value : Int)
  | array (items : List Json)
  | object (fields : String → Option Json)

namespace Json

/-- An object with these fields, some of which may be left out. -/
def record (fields : List (String × Option Json)) : Json :=
  .object fun key => (fields.lookup key).join

/-- The operation `add` at the location that the tokens lead to. Positions in arrays other than the
end, which no patch here names, are left out. -/
def add (value : Json) : List String → Json → Option Json
  | [], _ => some value
  | ["-"], .array items => some (.array (items ++ [value]))
  | [key], .object fields => some (.object (Function.update fields key (some value)))
  | key :: rest, .object fields =>
    (fields key).bind fun child => (add value rest child).map fun child =>
      .object (Function.update fields key (some child))
  | _, _ => none

def get? : List String → Json → Option Json
  | [], doc => some doc
  | key :: rest, .object fields => (fields key).bind (get? rest)
  | _, _ => none

end Json

inductive PatchOp where
  | add
  | replace
  deriving DecidableEq

structure JsonPatchOperation where
  op : PatchOp
  path : String
  value : Json

def jsonPointerEscape (value : String) : String :=
  let value := value.toList.flatMap fun c => if c = '~' then ['~', '0'] else [c]
  String.ofList (value.flatMap fun c => if c = '/' then ['~', '1'] else [c])

def unescape : List Char → List Char
  | '~' :: '1' :: rest => '/' :: unescape rest
  | '~' :: '0' :: rest => '~' :: unescape rest
  | c :: rest => c :: unescape rest
  | [] => []

/-- The tokens of a JSON pointer. -/
def pointerTokens (path : String) : List String :=
  ((path.toList.splitOn '/').drop 1).map fun token => String.ofList (unescape token)

def JsonPatchOperation.apply (operation : JsonPatchOperation) (doc : Json) : Option Json :=
  let tokens := pointerTokens operation.path
  match operation.op with
  | .add => Json.add operation.value tokens doc
  | .replace => (doc.get? tokens).bind fun _ => Json.add operation.value tokens doc

def applyPatch (patch : List JsonPatchOperation) (doc : Json) : Option Json :=
  patch.foldlM (fun doc operation => operation.apply doc) doc

/-! ## Pods -/

inductive NodeSelectorOperator where
  | opIn
  | opNotIn
  | opExists
  | opDoesNotExist
  | opGt
  | opLt
  deriving DecidableEq

structure NodeSelectorRequirement where
  key : String
  operator : NodeSelectorOperator
  values : List String
  deriving DecidableEq

structure NodeSelectorTerm where
  matchExpressions : List NodeSelectorRequirement := []
  matchFields : List NodeSelectorRequirement := []
  deriving DecidableEq

structure PreferredSchedulingTerm where
  weight : Int
  preference : NodeSelectorTerm

structure NodeAffinity where
  required : Option (List NodeSelectorTerm) := none
  preferred : Option (List PreferredSchedulingTerm) := none

/-- The affinity of a pod, with its rules about other pods. -/
structure Affinity where
  nodeAffinity : Option NodeAffinity := none
  others : String → Option Json := fun _ => none

/-- A pod, with all of its fields that the webhook does not read. -/
structure Pod where
  annotations : Option (String → Option String)
  affinity : Option Affinity
  metadata : String → Option Json
  spec : String → Option Json
  others : String → Option Json

def NodeSelectorOperator.text : NodeSelectorOperator → String
  | .opIn => "In"
  | .opNotIn => "NotIn"
  | .opExists => "Exists"
  | .opDoesNotExist => "DoesNotExist"
  | .opGt => "Gt"
  | .opLt => "Lt"

/-- A list that is left out when it is empty. -/
def omitEmpty (items : List Json) : Option Json :=
  if items.isEmpty then none else some (.array items)

def NodeSelectorRequirement.toJson (requirement : NodeSelectorRequirement) : Json :=
  .record [("key", some (.string requirement.key)),
    ("operator", some (.string requirement.operator.text)),
    ("values", omitEmpty (requirement.values.map .string))]

def NodeSelectorTerm.toJson (term : NodeSelectorTerm) : Json :=
  .record [("matchExpressions", omitEmpty (term.matchExpressions.map (·.toJson))),
    ("matchFields", omitEmpty (term.matchFields.map (·.toJson)))]

def PreferredSchedulingTerm.toJson (term : PreferredSchedulingTerm) : Json :=
  .record [("weight", some (.number term.weight)), ("preference", some term.preference.toJson)]

def NodeAffinity.toJson (affinity : NodeAffinity) : Json :=
  .object (Function.update (Function.update (fun _ => none)
    "requiredDuringSchedulingIgnoredDuringExecution" (affinity.required.map fun terms =>
      .record [("nodeSelectorTerms", some (.array (terms.map (·.toJson))))]))
    "preferredDuringSchedulingIgnoredDuringExecution" (affinity.preferred.map fun terms =>
      .array (terms.map (·.toJson))))

def Affinity.toJson (affinity : Affinity) : Json :=
  .object (Function.update affinity.others "nodeAffinity" (affinity.nodeAffinity.map (·.toJson)))

def annotationsJson (annotations : String → Option String) : Json :=
  .object (Option.map Json.string ∘ annotations)

def Pod.toJson (pod : Pod) : Json :=
  .object (Function.update (Function.update pod.others
    "metadata" (some (.object (Function.update pod.metadata "annotations"
      (pod.annotations.map annotationsJson)))))
    "spec" (some (.object (Function.update pod.spec "affinity" (pod.affinity.map (·.toJson))))))

/-! ## Nodes -/

/-- The labels of a node, and its fields. -/
structure NodeInfo where
  labels : String → Option String
  fields : String → Option String

def NodeSelectorRequirement.admits (requirement : NodeSelectorRequirement)
    (attributes : String → Option String) : Bool :=
  let value := attributes requirement.key
  match requirement.operator, requirement.values with
  | .opIn, values => value.any values.contains
  | .opNotIn, values => !value.any values.contains
  | .opExists, _ => value.isSome
  | .opDoesNotExist, _ => value.isNone
  | .opGt, [bound] => (value.bind atoi).any fun n => (atoi bound).any (· < n)
  | .opLt, [bound] => (value.bind atoi).any fun n => (atoi bound).any (n < ·)
  | _, _ => false

/-- Empty terms admit no node. -/
def NodeSelectorTerm.admits (term : NodeSelectorTerm) (node : NodeInfo) : Bool :=
  term ≠ {} && term.matchExpressions.all (·.admits node.labels) &&
    term.matchFields.all (·.admits node.fields)

def Pod.required? (pod : Pod) : Option (List NodeSelectorTerm) :=
  (pod.affinity.bind (·.nodeAffinity)).bind (·.required)

def Pod.admits (pod : Pod) (node : NodeInfo) : Bool :=
  pod.required?.all fun terms => terms.any (·.admits node)

/-! ## The webhook -/

def labelHostname : String := "kubernetes.io/hostname"

def annotationLastNodeInjected : String :=
  "storage-provider.opennebula.io/last-node-preference-injected"

def nodeSelectorTermHasHostname (term : NodeSelectorTerm) (hostname : String) : Bool :=
  term.matchExpressions.any fun expr =>
    expr.key = labelHostname && expr.operator = .opIn && expr.values.contains hostname

def hasPreferredHostnameAffinity (pod : Pod) (hostname : String) : Bool :=
  match pod.affinity.bind (·.nodeAffinity) with
  | none => false
  | some affinity => (affinity.preferred.getD []).any fun term =>
    nodeSelectorTermHasHostname term.preference hostname

/-- The part of both patches about the annotations. -/
def annotationPatch (pod : Pod) (targetNode : String) : List JsonPatchOperation :=
  (if pod.annotations.isNone then [⟨.add, "/metadata/annotations", .record []⟩] else []) ++
    [⟨.add, "/metadata/annotations/" ++ jsonPointerEscape annotationPreferredLastNode,
      .string targetNode⟩,
    ⟨.add, "/metadata/annotations/" ++ jsonPointerEscape annotationLastNodeInjected,
      .string "true"⟩]

def hostnameRequirement (hostname : String) : NodeSelectorRequirement :=
  ⟨labelHostname, .opIn, [hostname]⟩

def hostnamePreference (hostname : String) : PreferredSchedulingTerm :=
  ⟨100, { matchExpressions := [hostnameRequirement hostname] }⟩

def buildLastNodePreferencePatch (pod : Pod) (targetNode hostname : String) :
    List JsonPatchOperation :=
  let nodeAffinity := pod.affinity.bind (·.nodeAffinity)
  annotationPatch pod targetNode ++
    (if pod.affinity.isNone then [⟨.add, "/spec/affinity", ({} : Affinity).toJson⟩] else []) ++
    (if nodeAffinity.isNone then
      [⟨.add, "/spec/affinity/nodeAffinity", ({} : NodeAffinity).toJson⟩] else []) ++
    (if (nodeAffinity.bind (·.preferred)).isNone then
      [⟨.add, "/spec/affinity/nodeAffinity/preferredDuringSchedulingIgnoredDuringExecution",
        .array []⟩] else []) ++
    [⟨.add, "/spec/affinity/nodeAffinity/preferredDuringSchedulingIgnoredDuringExecution/-",
      (hostnamePreference hostname).toJson⟩]

/-- The terms that `buildLastNodeRequiredPatch` puts in place of the required ones. -/
def requiredTerms (required : Option (List NodeSelectorTerm)) (hostname : String) :
    List NodeSelectorTerm :=
  match required with
  | none | some [] => [{ matchExpressions := [hostnameRequirement hostname] }]
  | some terms => terms.map fun term =>
    if nodeSelectorTermHasHostname term hostname then term
    else { term with matchExpressions := term.matchExpressions ++ [hostnameRequirement hostname] }

def requiredAffinity (pod : Pod) (hostname : String) : Affinity :=
  let affinity := pod.affinity.getD {}
  let nodeAffinity := affinity.nodeAffinity.getD {}
  { affinity with
    nodeAffinity := some { nodeAffinity with
      required := some (requiredTerms nodeAffinity.required hostname) } }

def buildLastNodeRequiredPatch (pod : Pod) (targetNode hostname : String) :
    List JsonPatchOperation :=
  annotationPatch pod targetNode ++
    [⟨if pod.affinity.isSome then .replace else .add, "/spec/affinity",
      (requiredAffinity pod hostname).toJson⟩]

/-- The patch of `buildPatch`, once the node and its hostname have been found. -/
def lastNodePatch (maintenanceActive : Bool) (pod : Pod) (targetNode hostname : String) :
    List JsonPatchOperation :=
  if !maintenanceActive && hasPreferredHostnameAffinity pod hostname then []
  else if maintenanceActive then buildLastNodeRequiredPatch pod targetNode hostname
  else buildLastNodePreferencePatch pod targetNode hostname

/-! ## The patched pods -/

def Pod.annotated (pod : Pod) (targetNode : String) : Pod :=
  { pod with annotations := some (Function.update (Function.update
    (pod.annotations.getD fun _ => none) annotationPreferredLastNode (some targetNode))
      annotationLastNodeInjected (some "true")) }

/-- The pod with its annotations, and with the preference after all others. -/
def Pod.preferring (pod : Pod) (targetNode hostname : String) : Pod :=
  let affinity := pod.affinity.getD {}
  let nodeAffinity := affinity.nodeAffinity.getD {}
  { pod.annotated targetNode with
    affinity := some { affinity with
      nodeAffinity := some { nodeAffinity with
        preferred := some (nodeAffinity.preferred.getD [] ++ [hostnamePreference hostname]) } } }

def Pod.requiring (pod : Pod) (targetNode hostname : String) : Pod :=
  { pod.annotated targetNode with affinity := some (requiredAffinity pod hostname) }

theorem pointerTokens_paths :
    pointerTokens "/metadata/annotations" = ["metadata", "annotations"] ∧
    (∀ key ∈ [annotationPreferredLastNode, annotationLastNodeInjected],
      pointerTokens ("/metadata/annotations/" ++ jsonPointerEscape key) =
        ["metadata", "annotations", key]) ∧
    pointerTokens "/spec/affinity" = ["spec", "affinity"] ∧
    pointerTokens "/spec/affinity/nodeAffinity" = ["spec", "affinity", "nodeAffinity"] ∧
    pointerTokens "/spec/affinity/nodeAffinity/preferredDuringSchedulingIgnoredDuringExecution" =
      ["spec", "affinity", "nodeAffinity", "preferredDuringSchedulingIgnoredDuringExecution"] ∧
    pointerTokens "/spec/affinity/nodeAffinity/preferredDuringSchedulingIgnoredDuringExecution/-" =
      ["spec", "affinity", "nodeAffinity", "preferredDuringSchedulingIgnoredDuringExecution",
        "-"] := by
  decide +kernel

variable (pod : Pod) (targetNode hostname : String)

/-- The part about the annotations comes first and leaves the rest of the pod alone. -/
theorem applyPatch_annotationPatch (rest : List JsonPatchOperation) :
    applyPatch (annotationPatch pod targetNode ++ rest) pod.toJson =
      applyPatch rest (pod.annotated targetNode).toJson := by
  obtain ⟨hannotations, hkeys, -⟩ := pointerTokens_paths
  have hfirst := hkeys _ (List.mem_cons_self ..)
  have hsecond := hkeys _ (List.mem_cons_of_mem _ (List.mem_cons_self ..))
  have hspec : "spec" ≠ "metadata" := by decide
  have hcommon : applyPatch (annotationPatch pod targetNode) pod.toJson =
      some (pod.annotated targetNode).toJson := by
    cases hpod : pod.annotations <;>
    · simp [applyPatch, annotationPatch, hpod, JsonPatchOperation.apply, hannotations, hfirst,
        hsecond, Pod.toJson, Json.add, Pod.annotated, Json.record, annotationsJson,
        Function.update_comm hspec, Function.comp_update]
      try rfl
  rw [applyPatch, List.foldlM_append, ← applyPatch, hcommon]
  rfl

/-- The patch for the preference can be applied. It leaves the pod as it is but for the two
annotations and the new preference, which comes last; and then there is nothing more to do. -/
theorem preference_patch_applied :
    applyPatch (buildLastNodePreferencePatch pod targetNode hostname) pod.toJson =
      some (pod.preferring targetNode hostname).toJson ∧
    hasPreferredHostnameAffinity (pod.preferring targetNode hostname) hostname = true ∧
    ∀ otherNode,
      lastNodePatch false (pod.preferring targetNode hostname) otherNode hostname = [] := by
  have hpresent : hasPreferredHostnameAffinity (pod.preferring targetNode hostname) hostname =
      true := by
    simp [hasPreferredHostnameAffinity, Pod.preferring, hostnamePreference,
      nodeSelectorTermHasHostname, hostnameRequirement]
  refine ⟨?_, hpresent, fun otherNode => by simp [lastNodePatch, hpresent]⟩
  obtain ⟨-, -, haffinity, hnode, hpreferred, hend⟩ := pointerTokens_paths
  simp only [buildLastNodePreferencePatch, List.append_assoc, applyPatch_annotationPatch]
  -- The operations are carried out one by one, for each parent that may be missing.
  rcases hpod : pod.affinity with _ | ⟨_ | ⟨required, _ | preferred⟩, others⟩ <;>
    simp [applyPatch, JsonPatchOperation.apply, hpod, haffinity, hnode, hpreferred,
      hend, Pod.toJson,
      Json.add, Pod.annotated, Affinity.toJson, NodeAffinity.toJson, Pod.preferring]

/-- If the node has the hostname, no term is empty, unless another term admits it. Otherwise, no
term that lists the hostname admits it. -/
def Pod.RequiresExactly (pod : Pod) (hostname : String) (node : NodeInfo) : Prop :=
  ∀ terms, pod.required? = some terms →
    if node.labels labelHostname = some hostname then
      (terms = [] ∨ {} ∈ terms) → ∃ term ∈ terms, term.admits node = true
    else ∀ term ∈ terms, nodeSelectorTermHasHostname term hostname = true → term.admits node = false

variable {hostname} {node : NodeInfo}

theorem admits_hostnameRequirement :
    (hostnameRequirement hostname).admits node.labels = true ↔
      node.labels labelHostname = some hostname := by
  simp [NodeSelectorRequirement.admits, hostnameRequirement, Option.any_eq_true]

theorem admits_withHostname (term : NodeSelectorTerm) :
    { term with matchExpressions := term.matchExpressions ++
      [hostnameRequirement hostname] }.admits node = true ↔
      (term = {} ∨ term.admits node = true) ∧ node.labels labelHostname = some hostname := by
  by_cases hterm : term = {}
  · subst hterm
    simp [NodeSelectorTerm.admits, admits_hostnameRequirement]
  · simp [NodeSelectorTerm.admits, hterm, admits_hostnameRequirement, and_right_comm]

/-- What the new terms admit, term by term. -/
theorem admits_requiredTerms {terms : List NodeSelectorTerm} (hterms : terms ≠ []) :
    (∃ term ∈ requiredTerms (some terms) hostname, term.admits node = true) ↔
      ∃ term ∈ terms, (nodeSelectorTermHasHostname term hostname = true ∧ term.admits node = true) ∨
        nodeSelectorTermHasHostname term hostname = false ∧
          (term = {} ∨ term.admits node = true) ∧ node.labels labelHostname = some hostname := by
  cases terms with
  | nil => exact absurd rfl hterms
  | cons first rest => ?_
  simp only [requiredTerms, List.mem_map, exists_exists_and_eq_and]
  refine exists_congr fun term => and_congr_right fun _ => ?_
  split
  · rename_i hlisted
    simp [hlisted]
  · rename_i hunlisted
    simp [admits_withHostname, hunlisted]

theorem admits_requiring :
    (pod.requiring targetNode hostname).admits node = true ↔
      ∃ term ∈ requiredTerms pod.required? hostname, term.admits node = true := by
  rcases hpod : pod.affinity with _ | ⟨_ | nodeAffinity, others⟩ <;>
    simp [Pod.requiring, Pod.admits, Pod.required?, requiredAffinity, hpod]

/-- The patch for the requirement can be applied. Then the pod requires what it required before and
the node, as far as the given node is concerned, if and only if the condition holds of that node. -/
theorem required_patch_exact_iff (node : NodeInfo) :
    applyPatch (buildLastNodeRequiredPatch pod targetNode hostname) pod.toJson =
      some (pod.requiring targetNode hostname).toJson ∧
    (((pod.requiring targetNode hostname).admits node = true ↔
      pod.admits node = true ∧ node.labels labelHostname = some hostname) ↔
      pod.RequiresExactly hostname node) := by
  constructor
  · obtain ⟨-, -, haffinity, -⟩ := pointerTokens_paths
    rw [buildLastNodeRequiredPatch, applyPatch_annotationPatch]
    cases hpod : pod.affinity <;>
      simp [applyPatch, JsonPatchOperation.apply, hpod, haffinity, Pod.toJson, Json.add, Json.get?,
        Pod.annotated, Pod.requiring]
  rw [admits_requiring]
  unfold Pod.RequiresExactly Pod.admits
  rcases pod.required? with _ | terms
  · simp [requiredTerms, NodeSelectorTerm.admits, admits_hostnameRequirement]
  simp only [Option.all_some, List.any_eq_true, Option.some.injEq, forall_eq']
  by_cases hterms : terms = []
  · simp [hterms, requiredTerms, NodeSelectorTerm.admits, admits_hostnameRequirement]
  rw [admits_requiredTerms hterms]
  split
  · -- On the node itself, the patch matters to the empty terms only.
    rename_i hhost
    simp only [hhost, and_true, hterms, false_or]
    constructor
    · intro h hempty
      exact h.1 ⟨{}, hempty, .inr ⟨rfl, .inl rfl⟩⟩
    · intro h
      constructor
      · rintro ⟨term, hterm, ⟨-, hadmits⟩ | ⟨-, rfl | hadmits⟩⟩
        · exact ⟨term, hterm, hadmits⟩
        · exact h hterm
        · exact ⟨term, hterm, hadmits⟩
      · rintro ⟨term, hterm, hadmits⟩
        refine ⟨term, hterm, ?_⟩
        cases nodeSelectorTermHasHostname term hostname with
        | true => exact .inl ⟨rfl, hadmits⟩
        | false => exact .inr ⟨rfl, .inr hadmits⟩
  · -- Other nodes are admitted by the terms that already list the node.
    rename_i hhost
    simp only [hhost, and_false, or_false, iff_false, not_exists, not_and, Bool.not_eq_true]

/-- A pod with the given required terms. -/
def podRequiring (terms : List NodeSelectorTerm) : Pod where
  annotations := none
  affinity := some { nodeAffinity := some { required := some terms } }
  metadata := fun _ => none
  spec := fun _ => none
  others := fun _ => none

/-- A node with the given hostname. -/
def nodeNamed (hostname : String) : NodeInfo where
  labels key := if key = labelHostname then some hostname else none
  fields _ := none

/-- After the patch for "n1", a pod that may run on "n1" or "n2" may still run on "n2", and a pod
that could run nowhere can run on "n1". -/
theorem required_patch_inexact :
    ((podRequiring [⟨[⟨labelHostname, .opIn, ["n1", "n2"]⟩], []⟩]).requiring "n1" "n1").admits
      (nodeNamed "n2") = true ∧
    (podRequiring [{}]).admits (nodeNamed "n1") = false ∧
    ((podRequiring [{}]).requiring "n1" "n1").admits (nodeNamed "n1") = true := by
  decide

end OpenNebulaCSI.Webhook
