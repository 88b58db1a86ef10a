import ScriptedRays.Device.Basic
import ScriptedRays.Registry.Ledger

/-!
# Registry — the resources that scripts can name

A registry keeps one ledger for each kind.  Ids of different kinds are issued apart; what happens to
one kind leaves the others alone.  What is released is destroyed on a device, of which the registry
knows nothing but how to have it destroy a resource.
-/

namespace ScriptedRays

/-- A registered scene, and how many instances it was built from. -/
structure SceneEntry where
  handle : Handle .tlas
  instanceCount : Nat
  deriving DecidableEq

/-- What is registered of a resource. -/
abbrev Entry : Kind → Type
  | .geometry => Handle .geometry
  | .blas => Handle .blas
  | .tlas => SceneEntry

namespace Entry

/-- The handle inside an entry. -/
def handle : {kind : Kind} → Entry kind → Handle kind
  | .geometry, h => h
  | .blas, h => h
  | .tlas, ⟨h, _⟩ => h

/-- The entry with an id given to its handle. -/
def withId : {kind : Kind} → Entry kind → UInt32 → Entry kind
  | .geometry, h, id => Handle.withId h id
  | .blas, h, id => Handle.withId h id
  | .tlas, ⟨h, count⟩, id => ⟨h.withId id, count⟩

@[simp] theorem handle_withId {kind : Kind} (e : Entry kind) (id : UInt32) :
    (e.withId id).handle = e.handle.withId id := by
  cases kind <;> rfl

/-- What is told of a registered entry beside its kind and id. -/
def remark : {kind : Kind} → Entry kind → String
  | .geometry, _ => ""
  | .blas, _ => ""
  | .tlas, ⟨_, count⟩ => " (" ++ Text.decimal count ++ " instances)"

end Entry

/-- How many resources of each kind there are. -/
structure Stats where
  geometries : Nat := 0
  blases : Nat := 0
  tlases : Nat := 0
  deriving DecidableEq, Inhabited

def Stats.total (s : Stats) : Nat := s.geometries + s.blases + s.tlases

/-- A ledger for each kind. -/
structure Registry where
  geometries : Ledger (Entry .geometry) := .empty
  blases : Ledger (Entry .blas) := .empty
  tlases : Ledger (Entry .tlas) := .empty
  deriving Inhabited

namespace Registry

/-- The ledger of a kind. -/
def ledger (r : Registry) : (kind : Kind) → Ledger (Entry kind)
  | .geometry => r.geometries
  | .blas => r.blases
  | .tlas => r.tlases

/-- The registry with another ledger of a kind. -/
def withLedger (r : Registry) : (kind : Kind) → Ledger (Entry kind) → Registry
  | .geometry, t => { r with geometries := t }
  | .blas, t => { r with blases := t }
  | .tlas, t => { r with tlases := t }

@[simp] theorem ledger_withLedger (r : Registry) (kind : Kind) (t : Ledger (Entry kind)) :
    (r.withLedger kind t).ledger kind = t := by
  cases kind <;> rfl

theorem ledger_withLedger_of_ne (r : Registry) {kind other : Kind} (t : Ledger (Entry kind))
    (h : other ≠ kind) : (r.withLedger kind t).ledger other = r.ledger other := by
  cases kind <;> cases other <;> first | rfl | exact absurd rfl h

def stats (r : Registry) : Stats := ⟨r.geometries.size, r.blases.size, r.tlases.size⟩

def isEmpty (r : Registry) : Bool := r.stats.total == 0

def contains (r : Registry) (kind : Kind) (id : UInt32) : Bool := (r.ledger kind).contains id

/-- The entry under an id. -/
def resolve (r : Registry) (kind : Kind) (id : UInt32) : Except Error (Entry kind) :=
  match (r.ledger kind).get? id with
  | some e => .ok e
  | none => .error (.unresolved kind id none)

/-- Gives a resource an id.  A null handle stands for a creation that failed and is refused. -/
def register (r : Registry) (kind : Kind) (e : Entry kind) :
    Outcome Registry (Except Error (Handle kind)) :=
  if e.handle.isNull then ⟨.error (.deviceFailure kind), r, []⟩
  else
    match (r.ledger kind).insert e.withId with
    | none => ⟨.error (.invalid (.idsExhausted kind)), r, []⟩
    | some (id, t) =>
      ⟨.ok (e.handle.withId id), r.withLedger kind t,
        [.debug ("registered " ++ kind.tag ++ " " ++ Text.decimal id.toNat ++ e.remark)]⟩

theorem register_of_isNull (r : Registry) {kind : Kind} {e : Entry kind}
    (h : e.handle.isNull = true) : r.register kind e = ⟨.error (.deviceFailure kind), r, []⟩ :=
  if_pos h

theorem register_of_insert_none {r : Registry} {kind : Kind} {e : Entry kind}
    (h : e.handle.isNull = false) (hi : (r.ledger kind).insert e.withId = none) :
    r.register kind e = ⟨.error (.invalid (.idsExhausted kind)), r, []⟩ := by
  unfold register
  rw [h, if_neg Bool.false_ne_true, hi]

theorem register_of_insert {r : Registry} {kind : Kind} {e : Entry kind} {id : UInt32}
    {t : Ledger (Entry kind)} (h : e.handle.isNull = false)
    (hi : (r.ledger kind).insert e.withId = some (id, t)) :
    r.register kind e = ⟨.ok (e.handle.withId id), r.withLedger kind t,
      [.debug ("registered " ++ kind.tag ++ " " ++ Text.decimal id.toNat ++ e.remark)]⟩ := by
  unfold register
  rw [h, if_neg Bool.false_ne_true, hi]

section Release

variable {δ : Type} (destroy : (kind : Kind) → Handle kind → δ → δ)

/-- Takes a resource out and has the device destroy it.  Tells whether there was one. -/
def release (r : Registry) (kind : Kind) (id : UInt32) (device : δ) : Outcome (δ × Registry) Bool :=
  match (r.ledger kind).get? id with
  | none => ⟨false, (device, r), []⟩
  | some e =>
    ⟨true, (destroy kind e.handle device, r.withLedger kind ((r.ledger kind).erase id)),
      [.debug ("released " ++ kind.tag ++ " " ++ Text.decimal id.toNat)]⟩

theorem release_of_none {r : Registry} {kind : Kind} {id : UInt32}
    (h : (r.ledger kind).get? id = none) (device : δ) :
    r.release destroy kind id device = ⟨false, (device, r), []⟩ := by
  unfold release
  rw [h]

theorem release_of_some {r : Registry} {kind : Kind} {id : UInt32} {e : Entry kind}
    (h : (r.ledger kind).get? id = some e) (device : δ) :
    r.release destroy kind id device =
      ⟨true, (destroy kind e.handle device, r.withLedger kind ((r.ledger kind).erase id)),
        [.debug ("released " ++ kind.tag ++ " " ++ Text.decimal id.toNat)]⟩ := by
  unfold release
  rw [h]

/-- Has the device destroy all resources of a kind, by ascending id. -/
def destroyAll (kind : Kind) (ledger : Ledger (Entry kind)) (device : δ) : δ :=
  ledger.drain.foldl (fun d entry => destroy kind entry.2.handle d) device

/-- What remains of a registry when all its ledgers are drained. -/
def drained (r : Registry) : Registry :=
  ⟨r.geometries.drained, r.blases.drained, r.tlases.drained⟩

/-- Releases everything: scenes first, then what they refer to, then what that was built from. -/
def releaseAll (r : Registry) (device : δ) : Outcome (δ × Registry) Stats :=
  let stats := r.stats
  let device :=
    destroyAll destroy .geometry r.geometries <|
      destroyAll destroy .blas r.blases <|
        destroyAll destroy .tlas r.tlases device
  ⟨stats, (device, r.drained),
    if 0 < stats.total then
      [.info ("released " ++ Text.decimal stats.geometries ++ " geometries, " ++
        Text.decimal stats.blases ++ " blases, " ++ Text.decimal stats.tlases ++ " tlases")]
    else []⟩

end Release

end Registry

end ScriptedRays
