import Mathlib.Data.List.Perm.Subperm
import Mathlib.Logic.Relation
import ScriptedRays.Proofs.Double
import ScriptedRays.Script.Equality
import ScriptedRays.Script.Object

/-!
# Equality — values are equal by their content, objects in any order

Comparing is one-sided where objects are concerned: it counts the names and looks those of the left
side up in the right.  As no name occurs twice, this says that both have the same names
(`eqv_object_iff`), and equality is told by shape (`Alike`).  That it is symmetric, transitive and, short
of a NaN, reflexive follows by induction on the parts of a value (`Part`).
-/

namespace ScriptedRays

/-! ### Numbers -/

namespace Double

theorem eqv_iff {x y : Double} : x.eqv y = true ↔
    x.isNaN = false ∧ y.isNaN = false ∧ (x = y ∨ x.isZero = true ∧ y.isZero = true) := by
  obtain ⟨a⟩ := x
  obtain ⟨b⟩ := y
  unfold eqv
  rw [Bool.and_eq_true, Bool.and_eq_true, Bool.or_eq_true, Bool.and_eq_true, beq_iff_eq,
    Bool.not_eq_true', Bool.not_eq_true', and_assoc, Double.mk.injEq]

theorem isFinite_of_isZero {x : Double} (h : x.isZero = true) : x.isFinite = true := by
  have hzero : x.magnitude = 0 := of_decide_eq_true h
  unfold isFinite
  rw [hzero]
  rfl

theorem eqv_trans {x y z : Double} (h : x.eqv y = true) (h' : y.eqv z = true) :
    x.eqv z = true := by
  obtain ⟨hx, -, hxy⟩ := eqv_iff.1 h
  obtain ⟨-, hz, hyz⟩ := eqv_iff.1 h'
  refine eqv_iff.2 ⟨hx, hz, ?_⟩
  rcases hxy with rfl | ⟨hxzero, hyzero⟩
  · exact hyz
  · rcases hyz with rfl | ⟨-, hzzero⟩
    · exact .inr ⟨hxzero, hyzero⟩
    · exact .inr ⟨hxzero, hzzero⟩

/-- Numbers are equal if they have one pattern or denote one rational, except that what is not a number
equals nothing. -/
theorem eqv_iff_denotes {x y : Double} : x.eqv y = true ↔
    x.isNaN = false ∧ y.isNaN = false ∧ (x = y ∨ ∃ q, x.Denotes q ∧ y.Denotes q) := by
  rw [eqv_iff]
  refine and_congr_right fun _ => and_congr_right fun _ => ⟨?_, ?_⟩
  · rintro (h | hzeros)
    · exact .inl h
    · refine .inr ⟨x.value, denotes_value (isFinite_of_isZero hzeros.1), ?_⟩
      rw [value_eq_iff.2 (.inr hzeros)]
      exact denotes_value (isFinite_of_isZero hzeros.2)
  · rintro (h | ⟨q, hx, hy⟩)
    · exact .inl h
    · exact value_eq_iff.1 (hx.eq_value.2.symm.trans hy.eq_value.2)

end Double

/-! ### Parts -/

namespace Value

/-- The direct parts of a value: the elements of an array, the values under an object's names. -/
inductive Part : Value → Value → Prop
  | element {x : Value} {xs : List Value} (hx : x ∈ xs) : Part x (.array xs)
  | field {x : Value} {keys : List String} {fields : Fields keys} {name : String}
      (hx : fields.get? name = some x) : Part x (.object keys fields)

mutual

/-- No value has parts without end. -/
theorem acc_part : ∀ v : Value, Acc Part v
  | .undefined => ⟨_, nofun⟩
  | .null => ⟨_, nofun⟩
  | .boolean _ => ⟨_, nofun⟩
  | .number _ => ⟨_, nofun⟩
  | .string _ => ⟨_, nofun⟩
  | .array xs => ⟨_, fun | _, .element hx => acc_element xs _ hx⟩
  | .object _ fields => ⟨_, fun | _, .field hx => acc_field fields _ _ hx⟩
  | .buffer _ => ⟨_, nofun⟩
  | .external _ => ⟨_, nofun⟩

theorem acc_element : ∀ xs : List Value, ∀ x ∈ xs, Acc Part x
  | x :: xs, u, hu => by
    rcases List.mem_cons.1 hu with h | h
    · exact h ▸ acc_part x
    · exact acc_element xs u h

theorem acc_field : ∀ {keys : List String} (fields : Fields keys) (name : String) (x : Value),
    fields.get? name = some x → Acc Part x
  | _, .nil, _, _, h => nomatch h
  | _, .cons key value _ fields, name, x, h => by
    by_cases hk : key = name
    · rw [Fields.get?, if_pos hk] at h
      exact Option.some.inj h ▸ acc_part value
    · rw [Fields.get?, if_neg hk] at h
      exact acc_field fields name x h

end

theorem wellFounded_part : WellFounded Part := ⟨acc_part⟩

end Value

/-! ### What equal values are like -/

/-- Each of some fields has an equal value under its name among others. -/
theorem Fields.eqvIn_iff {keys others : List String} {fs : Fields keys} {gs : Fields others} :
    fs.eqvIn gs = true ↔
      ∀ name v, fs.get? name = some v → ∃ w, gs.get? name = some w ∧ v.eqv w = true := by
  induction keys with
  | nil =>
    cases fs with
    | nil => exact iff_of_true rfl nofun
  | cons key rest ih =>
    cases fs with
    | cons _ value fresh fields =>
      rw [eqvIn, Bool.and_eq_true, ih]
      constructor
      · rintro ⟨hfirst, hrest⟩ name v hv
        by_cases hk : key = name
        · subst hk
          rw [get?, if_pos rfl] at hv
          obtain rfl := Option.some.inj hv
          cases hw : gs.get? key with
          | none =>
            rw [hw] at hfirst
            cases hfirst
          | some w =>
            rw [hw] at hfirst
            exact ⟨w, rfl, hfirst⟩
        · rw [get?, if_neg hk] at hv
          exact hrest name v hv
      · intro h
        refine ⟨?_, fun name v hv => h name v ?_⟩
        · obtain ⟨w, hw, heq⟩ := h key value (if_pos rfl)
          rw [hw]
          exact heq
        · -- the first name does not come again
          have hk : key ≠ name := fun hk => fresh (hk ▸ mem_of_get? hv)
          rw [get?, if_neg hk]
          exact hv

namespace Value

/-- Lists are equal if they are equally long and equal at each position. -/
theorem eqvElements_iff {xs ys : List Value} : eqvElements xs ys = true ↔
    xs.length = ys.length ∧
      ∀ (i : Nat) (x y : Value), xs[i]? = some x → ys[i]? = some y → x.eqv y = true := by
  induction xs generalizing ys with
  | nil =>
    cases ys with
    | nil => exact iff_of_true rfl ⟨rfl, nofun⟩
    | cons y ys => exact iff_of_false nofun nofun
  | cons x xs ih =>
    cases ys with
    | nil => exact iff_of_false nofun nofun
    | cons y ys =>
      rw [eqvElements, Bool.and_eq_true, ih, List.length_cons, List.length_cons, Nat.succ_inj]
      constructor
      · rintro ⟨hfirst, hlength, hrest⟩
        refine ⟨hlength, fun i u w hu hw => ?_⟩
        cases i with
        | zero => rwa [← Option.some.inj hu, ← Option.some.inj hw]
        | succ i => exact hrest i u w hu hw
      · rintro ⟨hlength, hall⟩
        exact ⟨hall 0 x y rfl rfl, hlength, fun i => hall (i + 1)⟩

/-- Objects are equal if they have the same names and equal values under each.  To compare numbers of
names and look up one side's is enough, as no name occurs twice. -/
theorem eqv_object_iff {ks ls : List String} {fs : Fields ks} {gs : Fields ls} :
    (object ks fs).eqv (object ls gs) = true ↔
      (∀ name, name ∈ ks ↔ name ∈ ls) ∧
        ∀ name v w, fs.get? name = some v → gs.get? name = some w → v.eqv w = true := by
  rw [eqv, Bool.and_eq_true, beq_iff_eq, Fields.eqvIn_iff]
  constructor
  · rintro ⟨hlength, hfound⟩
    have hsubset : ks ⊆ ls := fun name hname => by
      obtain ⟨v, hv⟩ := fs.exists_get? hname
      obtain ⟨w, hw, -⟩ := hfound name v hv
      exact Fields.mem_of_get? hw
    have hperm : ks.Perm ls := (fs.nodup.subperm hsubset).perm_of_length_le hlength.ge
    refine ⟨fun name => hperm.mem_iff, fun name v w hv hw => ?_⟩
    obtain ⟨w', hw', heq⟩ := hfound name v hv
    rwa [← Option.some.inj (hw'.symm.trans hw)]
  · rintro ⟨hnames, hvalues⟩
    refine ⟨((List.perm_ext_iff_of_nodup fs.nodup gs.nodup).2 hnames).length_eq, ?_⟩
    intro name v hv
    obtain ⟨w, hw⟩ := gs.exists_get? ((hnames name).1 (Fields.mem_of_get? hv))
    exact ⟨w, hw, hvalues name v w hv hw⟩

/-- The pairs of values that are equal, by their shape. -/
inductive Alike : Value → Value → Prop
  | undefined : Alike .undefined .undefined
  | null : Alike .null .null
  | boolean (b : Bool) : Alike (.boolean b) (.boolean b)
  | number {x y : Double} (h : x.eqv y = true) : Alike (.number x) (.number y)
  | string (s : String) : Alike (.string s) (.string s)
  | array {xs ys : List Value} (hlength : xs.length = ys.length)
      (helements : ∀ (i : Nat) (x y : Value), xs[i]? = some x → ys[i]? = some y → x.eqv y = true) :
      Alike (.array xs) (.array ys)
  | object {ks ls : List String} {fs : Fields ks} {gs : Fields ls}
      (hnames : ∀ name, name ∈ ks ↔ name ∈ ls)
      (hvalues : ∀ name v w, fs.get? name = some v → gs.get? name = some w → v.eqv w = true) :
      Alike (.object ks fs) (.object ls gs)
  | buffer (b : Buffer) : Alike (.buffer b) (.buffer b)
  | external (raw : UInt64) : Alike (.external raw) (.external raw)

theorem eqv_iff_alike {a b : Value} : a.eqv b = true ↔ Alike a b := by
  constructor
  · intro h
    -- values made by different constructors are not equal, so one case of `b` is left each time
    cases a with
    | undefined => cases b with
      | undefined => exact .undefined
      | _ => exact absurd h nofun
    | null => cases b with
      | null => exact .null
      | _ => exact absurd h nofun
    | boolean x => cases b with
      | boolean y => exact eq_of_beq h ▸ .boolean x
      | _ => exact absurd h nofun
    | number x => cases b with
      | number y => exact .number h
      | _ => exact absurd h nofun
    | string s => cases b with
      | string t => exact eq_of_beq h ▸ .string s
      | _ => exact absurd h nofun
    | array xs => cases b with
      | array ys => exact .array (eqvElements_iff.1 h).1 (eqvElements_iff.1 h).2
      | _ => exact absurd h nofun
    | object ks fs => cases b with
      | object ls gs => exact .object (eqv_object_iff.1 h).1 (eqv_object_iff.1 h).2
      | _ => exact absurd h nofun
    | buffer x => cases b with
      | buffer y => exact eq_of_beq h ▸ .buffer x
      | _ => exact absurd h nofun
    | external r => cases b with
      | external r' => exact eq_of_beq h ▸ .external r
      | _ => exact absurd h nofun
  · intro h
    cases h with
    | number h => exact h
    | array hlength helements => exact eqvElements_iff.2 ⟨hlength, helements⟩
    | object hnames hvalues => exact eqv_object_iff.2 ⟨hnames, hvalues⟩
    | _ => simp [eqv]

/-! ### Equal values, by their parts -/

theorem eqv_symm {a b : Value} (h : a.eqv b = true) : b.eqv a = true := by
  induction a using wellFounded_part.induction generalizing b with
  | _ a ih =>
    refine eqv_iff_alike.2 ?_
    cases eqv_iff_alike.1 h with
    | number h => exact .number ((Double.eqv_comm ..).trans h)
    | array hlength helements =>
      refine .array hlength.symm fun i y x hy hx => ?_
      exact ih x (.element (List.mem_of_getElem? hx)) (helements i x y hx hy)
    | object hnames hvalues =>
      refine .object (fun name => (hnames name).symm) fun name w v hw hv => ?_
      exact ih v (.field hv) (hvalues name v w hv hw)
    | _ => exact eqv_iff_alike.1 h

theorem eqv_trans {a b c : Value} (h : a.eqv b = true) (h' : b.eqv c = true) :
    a.eqv c = true := by
  induction a using wellFounded_part.induction generalizing b c with
  | _ a ih =>
    cases eqv_iff_alike.1 h with
    | number h =>
      cases eqv_iff_alike.1 h' with
      | number h' => exact Double.eqv_trans h h'
    | @array xs ys hlength helements =>
      cases eqv_iff_alike.1 h' with
      | array hlength' helements' =>
        refine eqvElements_iff.2 ⟨hlength.trans hlength', fun i x z hx hz => ?_⟩
        have hi : i < ys.length := hlength ▸ (List.getElem?_eq_some_iff.1 hx).1
        have hy : ys[i]? = some ys[i] := List.getElem?_eq_getElem hi
        exact ih x (.element (List.mem_of_getElem? hx)) (helements i x _ hx hy)
          (helements' i _ z hy hz)
    | @object _ _ _ gs hnames hvalues =>
      cases eqv_iff_alike.1 h' with
      | object hnames' hvalues' =>
        refine eqv_object_iff.2 ⟨fun name => (hnames name).trans (hnames' name), ?_⟩
        intro name u w hu hw
        obtain ⟨v, hv⟩ := gs.exists_get? ((hnames name).1 (Fields.mem_of_get? hu))
        exact ih u (.field hu) (hvalues name u v hu hv) (hvalues' name v w hv hw)
    | _ => exact h'

/-- What is not a NaN itself equals itself if its direct parts do. -/
theorem eqv_self_of_parts {a : Value} (hnumber : ∀ x, a = .number x → x.isNaN = false)
    (hparts : ∀ x, Part x a → x.eqv x = true) : a.eqv a = true := by
  refine eqv_iff_alike.2 ?_
  cases a with
  | number x => exact .number (x.eqv_self.trans (congrArg not (hnumber x rfl)))
  | array xs =>
    refine .array rfl fun i x y hx hy => ?_
    obtain rfl := Option.some.inj (hx.symm.trans hy)
    exact hparts x (.element (List.mem_of_getElem? hx))
  | object keys fields =>
    refine .object (fun _ => Iff.rfl) fun name v w hv hw => ?_
    obtain rfl := Option.some.inj (hv.symm.trans hw)
    exact hparts v (.field hv)
  | _ => constructor

theorem eqv_self_of_part {a x : Value} (hx : Part x a) (h : a.eqv a = true) :
    x.eqv x = true := by
  cases hx with
  | element hx =>
    obtain ⟨i, hi⟩ := List.mem_iff_getElem?.1 hx
    exact (eqvElements_iff.1 h).2 i x x hi hi
  | field hx => exact (eqv_object_iff.1 h).2 _ x x hx hx

/-- A value equals itself unless a NaN can be reached in it. -/
theorem eqv_self_iff {a : Value} : a.eqv a = true ↔
    ∀ x, Relation.ReflTransGen Part (.number x) a → x.isNaN = false := by
  constructor
  · intro h x hx
    induction hx with
    | refl => exact Bool.not_eq_true' _ ▸ x.eqv_self.symm.trans h
    | tail _ hpart ih => exact ih (eqv_self_of_part hpart h)
  · intro h
    induction a using wellFounded_part.induction with
    | _ a ih =>
      refine eqv_self_of_parts (fun x hx => h x (hx ▸ .refl)) fun x hx => ?_
      exact ih x hx fun y hy => h y (hy.tail hx)

/-! ### Objects by themselves -/

theorem eqv_toValue_iff {o p : Object} : o.toValue.eqv p.toValue = true ↔
    (∀ name, name ∈ o.keys ↔ name ∈ p.keys) ∧
      ∀ name v w, o.get? name = some v → p.get? name = some w → v.eqv w = true :=
  eqv_object_iff

/-- An object is equal to what another with the same fields is equal to. -/
theorem eqv_of_perm {o p : Object} (h : o.toList.Perm p.toList) {v : Value}
    (hv : o.toValue.eqv v = true) : p.toValue.eqv v = true := by
  have hkeys : o.keys.Perm p.keys := by
    rw [← o.map_fst_toList, ← p.map_fst_toList]
    exact h.map Prod.fst
  cases eqv_iff_alike.1 hv with
  | object hnames hvalues =>
    refine eqv_object_iff.2 ⟨fun name => hkeys.mem_iff.symm.trans (hnames name), ?_⟩
    intro name u w hu hw
    exact hvalues name u w ((Object.get?_of_perm h name).trans hu) hw

theorem ctorIdx_of_eqv {a b : Value} (h : a.eqv b = true) : a.ctorIdx = b.ctorIdx := by
  cases eqv_iff_alike.1 h <;> rfl

/-- **Equality of values is symmetric and transitive, and reflexive where no NaN can be reached.**
Numbers are equal if they have one pattern or denote one rational, buffers if they have one element type
and the same bytes, arrays if they are equal at each position, objects if they have the same names and
equal values under each, in whatever order; values of different shapes never are, nor are an object with
an undefined value under a name and one without that name. -/
theorem equal_by_content :
    (∀ a b : Value, a.eqv b = true → b.eqv a = true) ∧
    (∀ a b c : Value, a.eqv b = true → b.eqv c = true → a.eqv c = true) ∧
    (∀ a : Value, a.eqv a = true ↔
      ∀ x, Relation.ReflTransGen Part (.number x) a → x.isNaN = false) ∧
    (∀ x y : Double, (number x).eqv (.number y) = true ↔
      x.isNaN = false ∧ y.isNaN = false ∧ (x = y ∨ ∃ q, x.Denotes q ∧ y.Denotes q)) ∧
    (∀ b c : Buffer, (buffer b).eqv (.buffer c) = true ↔ b.kind = c.kind ∧ b.bytes = c.bytes) ∧
    (∀ xs ys : List Value, (array xs).eqv (.array ys) = true ↔ xs.length = ys.length ∧
      ∀ (i : Nat) (x y : Value), xs[i]? = some x → ys[i]? = some y → x.eqv y = true) ∧
    (∀ o p : Object, o.toValue.eqv p.toValue = true ↔
      (∀ name, name ∈ o.keys ↔ name ∈ p.keys) ∧
        ∀ name v w, o.get? name = some v → p.get? name = some w → v.eqv w = true) ∧
    (∀ o p : Object, o.toList.Perm p.toList → ∀ v, o.toValue.eqv v = p.toValue.eqv v) ∧
    (∀ a b : Value, a.ctorIdx ≠ b.ctorIdx → a.eqv b = false) ∧
    ∀ (o p : Object) (name : String), o.get? name = some .undefined → p.get? name = none →
      o.toValue.eqv p.toValue = false := by
  refine ⟨fun _ _ => eqv_symm, fun _ _ _ => eqv_trans, fun _ => eqv_self_iff,
    fun _ _ => Double.eqv_iff_denotes, fun b c => ?_, fun _ _ => eqvElements_iff,
    fun _ _ => eqv_toValue_iff, fun o p h v => ?_, fun a b h => ?_, fun o p name ho hp => ?_⟩
  · rw [eqv, beq_iff_eq, Buffer.mk.injEq]
  · exact Bool.eq_iff_iff.2 ⟨eqv_of_perm h, eqv_of_perm h.symm⟩
  · exact Bool.eq_false_iff.2 fun heq => h (ctorIdx_of_eqv heq)
  · refine Bool.eq_false_iff.2 fun heq => Object.get?_eq_none_iff.1 hp ?_
    exact ((eqv_toValue_iff.1 heq).1 name).1 (Fields.mem_of_get? ho)

/-- Objects with zeros of both signs under a name are equal, set in either order; an array with a NaN
is not equal to itself, nor an object to one that has undefined under another name. -/
theorem equal_by_content_zeros :
    (ofPairs [("x", .number ⟨0x8000000000000000⟩), ("y", .null)]).eqv
      (ofPairs [("y", .null), ("x", .number ⟨0⟩)]) = true ∧
    (array [.number ⟨0x7FF8000000000000⟩]).eqv (.array [.number ⟨0x7FF8000000000000⟩]) = false ∧
    (ofPairs [("y", .null), ("x", .undefined)]).eqv (ofPairs [("y", .null)]) = false := by
  obtain ⟨hsymm, -, hself, -, -, -, -, -, -, hundefined⟩ := equal_by_content
  refine ⟨hsymm _ _ (by decide), Bool.eq_false_iff.2 fun h => ?_, ?_⟩
  · have hpart : Part (.number ⟨0x7FF8000000000000⟩) (.array [.number ⟨0x7FF8000000000000⟩]) :=
      .element (List.mem_singleton.2 rfl)
    exact absurd ((hself _).1 h _ (.single hpart)) (by decide)
  · exact hundefined (.ofList [("y", .null), ("x", .undefined)]) (.ofList [("y", .null)]) "x" rfl rfl

end Value

end ScriptedRays
