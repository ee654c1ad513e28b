import BrainDb.Store.Memory
import Mathlib.Logic.Equiv.List

namespace BrainDb
open List
namespace Permissions

def encode : UInt32 := (1 : UInt32) <<< 0
def «recall» : UInt32 := (1 : UInt32) <<< 1
def forget : UInt32 := (1 : UInt32) <<< 2
def link : UInt32 := (1 : UInt32) <<< 3
def schemaUpload : UInt32 := (1 : UInt32) <<< 4
def admin : UInt32 := (1 : UInt32) <<< 5
def actAs : UInt32 := (1 : UInt32) <<< 6
def standardSpace : UInt32 := encode ||| «recall» ||| forget ||| link
def delegable : UInt32 := schemaUpload ||| admin

end Permissions

open Permissions

structure ApiKeyRow where
  keyHash : Digest
  (orgId userId : Nat)
  namespaceName : String
  spaceId : SpaceId
  permissions : UInt32
  mayAct : List String
  revoked : Bool

structure RequestScope where
  spaceId : SpaceId
  (orgId userId : Nat)
  namespaceName : String
  permissions : UInt32
  mayAct : List String
  keyHash : Digest

structure ActAs where
  (namespaceName space : String)
  grant : UInt32

structure RequestCaller where
  spaceId : SpaceId
  (orgId userId : Nat)
  namespaceName : String
  permissions : UInt32
  spaceString : String
  connectionId : Nat

inductive AuthMethod where
  | token
  | mtls

inductive AuthCredentials where
  | token (bytes : List UInt8)
  | mtls

structure AuthPayload where
  method : AuthMethod
  credentials : AuthCredentials

inductive AuthError where
  | missing
  | unknown
  | revoked
  | unsupportedMethod

abbrev AuthStore := Table Digest ApiKeyRow

structure AuthHashes where
  hashSecret : List UInt8 → Digest
  parseFormattedKey : List UInt8 → Option (List UInt8)
  deriveFromString : String → String → SpaceId

def RequestScope.fromRow (row : ApiKeyRow) : RequestScope :=
  { spaceId := row.spaceId, orgId := row.orgId, userId := row.userId
    namespaceName := row.namespaceName, permissions := row.permissions, mayAct := row.mayAct
    keyHash := row.keyHash }

def deriveScopeFromHandshake (hashes : AuthHashes) (auth : AuthPayload) (store : AuthStore) :
    Except AuthError RequestScope :=
  match auth.method, auth.credentials with
  | .token, .token bytes =>
    if bytes.isEmpty then .error .missing
    else
      let secret := (hashes.parseFormattedKey bytes).getD bytes
      match store.get (hashes.hashSecret secret) with
      | none => .error .unknown
      | some row => if row.revoked then .error .revoked else .ok (.fromRow row)
  | _, _ => .error .unsupportedMethod

def delegatedPermissions (delegator grant : UInt32) : UInt32 :=
  standardSpace ||| (grant &&& delegator &&& delegable)

def actAsGrantViolation (delegator grant : UInt32) : Option String :=
  if grant &&& ~~~delegable ≠ 0 then
    some "act_as: grant names a permission bit that cannot be delegated"
  else if grant &&& ~~~delegator ≠ 0 then
    some "act_as: grant exceeds the connection principal's own permissions"
  else none

variable (scope : RequestScope)

def checkActAs (a : ActAs) : Except String Unit :=
  if scope.permissions &&& actAs = 0 then
    .error "act_as: connection principal lacks the ACT_AS grant"
  else if !scope.mayAct.any (fun ns => ns = "*" || ns = a.namespaceName) then
    .error "act_as: target namespace is not in the principal's may_act allowlist"
  else match actAsGrantViolation scope.permissions a.grant with
    | some message => .error message
    | none => .ok ()

namespace RequestScope

def toCaller (connectionId : Nat) : RequestCaller :=
  { spaceId := scope.spaceId, orgId := scope.orgId, userId := scope.userId
    namespaceName := scope.namespaceName, permissions := scope.permissions, spaceString := ""
    connectionId }

def toEffectiveCaller (hashes : AuthHashes) (scope : RequestScope) (a : ActAs)
    (connectionId : Nat) : RequestCaller :=
  { spaceId := if a.space.isEmpty then scope.spaceId
      else hashes.deriveFromString a.namespaceName a.space
    orgId := scope.orgId, userId := scope.userId, namespaceName := a.namespaceName
    permissions := delegatedPermissions scope.permissions a.grant, spaceString := a.space
    connectionId }

def effectiveCaller (hashes : AuthHashes) (scope : RequestScope) (actAs : Option ActAs)
    (connectionId : Nat) : Except String RequestCaller :=
  match actAs with
  | none => .ok (scope.toCaller connectionId)
  | some a => (checkActAs scope a).map fun _ => scope.toEffectiveCaller hashes a connectionId

end RequestScope

open RequestScope

structure ClientRequest where
  auth : AuthPayload
  connectionId : Nat
  actAs : Option ActAs

section
variable (hashes : AuthHashes) (store : AuthStore) (r : ClientRequest)

def ClientRequest.caller? : Option RequestCaller :=
  match deriveScopeFromHandshake hashes r.auth store with
  | .error _ => none
  | .ok scope => (scope.effectiveCaller hashes r.actAs r.connectionId).toOption

def effectiveCallers (requests : List ClientRequest) : List RequestCaller :=
  requests.filterMap (ClientRequest.caller? hashes store)

def SpaceDeterminesNamespace (callers : List RequestCaller) : Prop :=
  ∀ c ∈ callers, ∀ c' ∈ callers, c.spaceId = c'.spaceId → c.namespaceName = c'.namespaceName

structure AuthStore.Separates : Prop where
  keys {k k' : Digest} {row row' : ApiKeyRow} : store.get k = some row → store.get k' = some row' →
    row.spaceId = row'.spaceId → row.namespaceName = row'.namespaceName
  derived {k : Digest} {row : ApiKeyRow} {ns space : String} : store.get k = some row →
    row.spaceId = hashes.deriveFromString ns space → row.namespaceName = ns

def ClientRequest.KeepsNamespace : Prop :=
  ∀ scope a, deriveScopeFromHandshake hashes r.auth store = .ok scope → r.actAs = some a →
    checkActAs scope a = .ok () → a.space = "" → a.namespaceName = scope.namespaceName

inductive RequestCaller.Rooted (c : RequestCaller) : Prop
  | key {k : Digest} {row : ApiKeyRow} : store.get k = some row → c.spaceId = row.spaceId →
      c.namespaceName = row.namespaceName → c.Rooted
  | derived {space : String} : c.spaceId = hashes.deriveFromString c.namespaceName space → c.Rooted

variable {hashes store}

lemma deriveScopeFromHandshake_ok {auth : AuthPayload} {scope : RequestScope}
    (h : deriveScopeFromHandshake hashes auth store = .ok scope) :
    ∃ k row, store.get k = some row ∧ scope = .fromRow row := by
  unfold deriveScopeFromHandshake at h
  split at h
  next bytes _ =>
    split at h
    · cases h
    · simp only at h
      split at h
      · cases h
      next row hrow =>
        split at h
        · cases h
        · cases h
          exact ⟨_, row, hrow, rfl⟩
  · cases h

variable {c : RequestCaller}

lemma ClientRequest.caller?_some {r : ClientRequest} (h : r.caller? hashes store = some c) :
    ∃ scope, deriveScopeFromHandshake hashes r.auth store = .ok scope ∧
      (c = scope.toCaller r.connectionId ∨ ∃ a, r.actAs = some a ∧ checkActAs scope a = .ok () ∧
        c = scope.toEffectiveCaller hashes a r.connectionId) := by
  unfold ClientRequest.caller? at h
  split at h
  · cases h
  next scope hsc =>
    refine ⟨scope, hsc, ?_⟩
    unfold effectiveCaller at h
    split at h
    · cases h
      exact .inl rfl
    next a ha =>
      cases hcheck : checkActAs scope a with
      | error e =>
        rw [hcheck] at h
        cases h
      | ok u =>
        rw [hcheck] at h
        cases h
        exact .inr ⟨a, ha, hcheck, rfl⟩

lemma ClientRequest.KeepsNamespace.rooted {r : ClientRequest} (hr : r.KeepsNamespace hashes store)
    (h : r.caller? hashes store = some c) : c.Rooted hashes store := by
  obtain ⟨scope, hsc, rfl | ⟨a, ha, hcheck, rfl⟩⟩ := ClientRequest.caller?_some h
  · obtain ⟨k, row, hrow, rfl⟩ := deriveScopeFromHandshake_ok hsc
    exact .key hrow rfl rfl
  · by_cases hsp : a.space = ""
    · have hns := hr scope a hsc ha hcheck hsp
      obtain ⟨k, row, hrow, rfl⟩ := deriveScopeFromHandshake_ok hsc
      refine .key hrow ?_ hns
      simp [toEffectiveCaller, hsp, fromRow]
    · have hderived : (scope.toEffectiveCaller hashes a r.connectionId).spaceId =
          hashes.deriveFromString (scope.toEffectiveCaller hashes a r.connectionId).namespaceName
            a.space := by
        simp [toEffectiveCaller, hsp]
      exact .derived hderived

lemma RequestCaller.Rooted.namespaceName_eq {c' : RequestCaller}
    (hinj : ∀ {ns ns' space space' : String},
      hashes.deriveFromString ns space = hashes.deriveFromString ns' space' → ns = ns')
    (hstore : store.Separates hashes) (hc : c.Rooted hashes store) (hc' : c'.Rooted hashes store)
    (h : c.spaceId = c'.spaceId) : c.namespaceName = c'.namespaceName := by
  cases hc with
  | key hrow hsp hns =>
    cases hc' with
    | key hrow' hspace' hns' =>
      rw [hns, hns']
      exact hstore.keys hrow hrow' (by rw [← hsp, h, hspace'])
    | derived hspace' =>
      rw [hns]
      exact hstore.derived hrow (by rw [← hsp, h, hspace'])
  | derived hsp =>
    cases hc' with
    | key hrow' hspace' hns' =>
      rw [hns']
      exact (hstore.derived hrow' (by rw [← hspace', ← h, hsp])).symm
    | derived hspace' => exact hinj (by rw [← hsp, h, hspace'])

/-- Of a class of requests that has, with each request, the one without its selector: every
sequence of them keeps one namespace to a space id iff none of them names, with an empty space,
another namespace than its key's. -/
theorem space_determines_namespace_iff (hinj : ∀ {ns ns' space space' : String},
      hashes.deriveFromString ns space = hashes.deriveFromString ns' space' →
        ns = ns' ∧ space = space') (hstore : store.Separates hashes) (admits : ClientRequest → Prop)
    (hpl : ∀ r, admits r → admits { r with actAs := none }) :
    (∀ requests : List ClientRequest, (∀ r ∈ requests, admits r) →
        SpaceDeterminesNamespace (effectiveCallers hashes store requests)) ↔
      ∀ r, admits r → r.KeepsNamespace hashes store := by
  constructor
  · intro hall r hr scope a hsc ha hcheck hsp
    let plain : ClientRequest := { r with actAs := none }
    have hadmits : ∀ q ∈ [r, plain], admits q := by
      intro q hq
      rcases mem_pair.mp hq with rfl | rfl
      · exact hr
      · exact hpl r hr
    have hfst : r.caller? hashes store =
        some (scope.toEffectiveCaller hashes a r.connectionId) := by
      simp [ClientRequest.caller?, hsc, ha, effectiveCaller, hcheck, Except.map, Except.toOption]
    have hsnd : plain.caller? hashes store = some (scope.toCaller r.connectionId) := by
      simp [ClientRequest.caller?, plain, hsc, effectiveCaller, Except.toOption]
    have hcallers : effectiveCallers hashes store [r, plain] =
        [scope.toEffectiveCaller hashes a r.connectionId, scope.toCaller r.connectionId] := by
      simp [effectiveCallers, hfst, hsnd]
    have hsame := hall [r, plain] hadmits
    rw [hcallers] at hsame
    refine hsame _ mem_cons_self _ (mem_cons_of_mem _ mem_cons_self) ?_
    simp [toEffectiveCaller, toCaller, hsp]
  · intro hkeeps requests hadmits c hc c' hc' heq
    obtain ⟨r, hr, hcaller⟩ := mem_filterMap.mp hc
    obtain ⟨r', hr', hcaller'⟩ := mem_filterMap.mp hc'
    have hroot := (hkeeps r (hadmits r hr)).rooted hcaller
    have hroot' := (hkeeps r' (hadmits r' hr')).rooted hcaller'
    exact hroot.namespaceName_eq (fun h => (hinj h).1) hstore hroot' heq
end

def stringCode (s : String) : Nat := Encodable.encode (s.toList.map Char.toNat)

lemma stringCode_injective : Function.Injective stringCode := by
  intro s t h
  have hmap : s.toList.map Char.toNat = t.toList.map Char.toNat := Encodable.encode_injective h
  have hchar : Function.Injective Char.toNat := fun a b hab => Char.ext (UInt32.toNat.inj hab)
  exact String.toList_injective (map_injective_iff.mpr hchar hmap)

def pairedHashes : AuthHashes :=
  { hashSecret := List.length, parseFormattedKey := fun _ => none
    deriveFromString := fun ns space => Nat.pair (stringCode ns) (stringCode space) }

lemma pairedHashes_injective {ns ns' space space' : String}
    (h : pairedHashes.deriveFromString ns space = pairedHashes.deriveFromString ns' space') :
    ns = ns' ∧ space = space' := by
  have hpair := Nat.pair_eq_pair.mp h
  exact ⟨stringCode_injective hpair.1, stringCode_injective hpair.2⟩

def gatewayKey : ApiKeyRow :=
  { keyHash := 1, orgId := 0, userId := 0, namespaceName := "gateway"
    spaceId := pairedHashes.deriveFromString "gateway" "own"
    permissions := standardSpace ||| actAs, mayAct := ["*"]
    revoked := false }

def gatewayStore : AuthStore := Table.empty.insert 1 gatewayKey

lemma gatewayStore_get {k : Digest} {row : ApiKeyRow} (h : gatewayStore.get k = some row) :
    row = gatewayKey := by
  unfold gatewayStore at h
  by_cases hk : k = 1
  · subst hk
    exact (Option.some.inj h).symm
  · rw [Table.get_insert_ne _ _ hk] at h
    cases h

lemma gatewayStore_separates : gatewayStore.Separates pairedHashes where
  keys h h' _ := by rw [gatewayStore_get h, gatewayStore_get h']
  derived h heq := by
    rw [gatewayStore_get h] at heq ⊢
    exact (@pairedHashes_injective "gateway" _ "own" _ heq).1

def gatewayRequest (actAs : Option ActAs) : ClientRequest :=
  { auth := ⟨.token, .token [7]⟩, connectionId := 9, actAs }

theorem gateway_space_determines_namespace :
    SpaceDeterminesNamespace (effectiveCallers pairedHashes gatewayStore
      [gatewayRequest (some ⟨"acme", "notes", 0⟩), gatewayRequest none]) := by
  refine (space_determines_namespace_iff pairedHashes_injective gatewayStore_separates
    (fun r => ∀ a, r.actAs = some a → a.space ≠ "") (fun _ _ _ h => by cases h)).mpr ?_ _ ?_
  · intro _ hr _ a _ ha _ hsp
    exact absurd hsp (hr a ha)
  · intro r hr a ha
    rcases mem_cons.mp hr with rfl | hr
    · cases ha
      decide
    · rw [mem_singleton.mp hr] at ha
      cases ha

/-- The gateway acting for `acme` without naming a space, and the gateway itself. -/
theorem gateway_space_has_two_namespaces : gatewayStore.Separates pairedHashes ∧
      ¬ SpaceDeterminesNamespace (effectiveCallers pairedHashes gatewayStore
        [gatewayRequest (some ⟨"acme", "", 0⟩), gatewayRequest none]) := by
  refine ⟨gatewayStore_separates, fun h => ?_⟩
  have hcallers : effectiveCallers pairedHashes gatewayStore
      [gatewayRequest (some ⟨"acme", "", 0⟩), gatewayRequest none] =
        [(fromRow gatewayKey).toEffectiveCaller pairedHashes ⟨"acme", "", 0⟩ 9,
          (fromRow gatewayKey).toCaller 9] := rfl
  have hsame := h _ mem_cons_self _ (mem_cons_of_mem _ mem_cons_self) rfl
  exact absurd hsame (by decide)

end BrainDb
