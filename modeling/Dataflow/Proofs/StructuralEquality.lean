import Dataflow.Policy
import Mathlib.Tactic.Lemma

/-!
# Equality by structure

Two JSON values are equal when they agree at every depth: arrays place by place, and objects field by
field whatever the order of the fields. This is what the comparison of values decides, and it makes the
policy that compares results as JSON an equivalence.
-/

namespace Dataflow

lemma Binary64.same_iff (x y : Binary64) :
    x.same y = true ↔ x = y ∨ x.isZero = true ∧ y.isZero = true := by
  simp [same]

lemma JsonNumber.same_equivalence :
    Equivalence fun m n : JsonNumber => m.same n = true where
  refl m := by cases m <;> simp [same, Binary64.same]
  symm {m n} h := by
    cases m <;> cases n <;> simp only [same, Binary64.same_iff, beq_iff_eq] at h ⊢
    · exact h.symm
    · cases h
    · cases h
    · exact h.imp Eq.symm And.symm
  trans {l m n} h h' := by
    cases l <;> cases m <;> cases n <;>
      simp only [same, Binary64.same_iff, beq_iff_eq, reduceCtorEq] at h h' ⊢
    · exact h.trans h'
    · rcases h with rfl | ⟨hl, hm⟩
      · exact h'
      · rcases h' with rfl | ⟨-, hn⟩
        · exact .inr ⟨hl, hm⟩
        · exact .inr ⟨hl, hn⟩

namespace Json

/-- Structural equality. Arrays agree place by place, objects as maps from names to values. -/
inductive Equal : Json → Json → Prop where
  | null : Equal .null .null
  | bool (b : Bool) : Equal (.bool b) (.bool b)
  | number {m n : JsonNumber} : m.same n = true → Equal (.number m) (.number n)
  | string (s : String) : Equal (.string s) (.string s)
  | array {xs ys : List Json} : xs.length = ys.length →
      (∀ (i : Nat) x y, xs[i]? = some x → ys[i]? = some y → Equal x y) →
      Equal (.array xs) (.array ys)
  | object {fs gs : NameMap Json} :
      (∀ k, (fs.get? k).isSome = (gs.get? k).isSome) →
      (∀ k v w, fs.get? k = some v → gs.get? k = some w → Equal v w) →
      Equal (.object fs) (.object gs)

/-- An item of an array, or what stands in a field of an object. -/
inductive Part : Json → Json → Prop where
  | item {xs : List Json} {i : Nat} {x : Json} : xs[i]? = some x → Part x (.array xs)
  | field {fs : NameMap Json} {k : String} {v : Json} : fs.get? k = some v → Part v (.object fs)

lemma sizeOf_lt_of_get? {fs : NameMap Json} {k : String} {v : Json} (h : fs.get? k = some v) :
    sizeOf v < sizeOf fs := by
  induction fs with
  | nil => cases h
  | cons p fs ih =>
    obtain ⟨j, w⟩ := p
    rw [List.cons.sizeOf_spec, Prod.mk.sizeOf_spec]
    unfold NameMap.get? at h
    by_cases hj : j = k
    · rw [if_pos hj] at h
      cases h
      omega
    · rw [if_neg hj] at h
      have hlt := ih h
      omega

lemma Part.sizeOf_lt {x j : Json} (h : x.Part j) : sizeOf x < sizeOf j := by
  cases h with
  | @item xs i x hx =>
    have hlt := List.sizeOf_lt_of_mem (List.mem_of_getElem? hx)
    rw [array.sizeOf_spec]
    omega
  | @field fs k v hv =>
    have hlt := sizeOf_lt_of_get? hv
    rw [object.sizeOf_spec]
    omega

/-- Values are built up from their parts. -/
lemma Part.wellFounded : WellFounded Part :=
  Subrelation.wf Part.sizeOf_lt (measure fun j : Json => sizeOf j).wf

namespace Equal

lemma refl (j : Json) : j.Equal j := by
  induction j using Part.wellFounded.induction with
  | h j ih =>
    cases j with
    | null => exact .null
    | bool b => exact .bool b
    | number n => exact .number (JsonNumber.same_equivalence.refl n)
    | string s => exact .string s
    | array xs =>
      refine .array rfl fun i x y hx hy => ?_
      obtain rfl := Option.some.inj (hx.symm.trans hy)
      exact ih x (.item hx)
    | object fs =>
      refine .object (fun _ => rfl) fun k v w hv hw => ?_
      obtain rfl := Option.some.inj (hv.symm.trans hw)
      exact ih v (.field hv)

lemma symm {a b : Json} (h : a.Equal b) : b.Equal a := by
  induction h with
  | null => exact .null
  | bool b => exact .bool b
  | number h => exact .number (JsonNumber.same_equivalence.symm h)
  | string s => exact .string s
  | array hlen _ ih => exact .array hlen.symm fun i x y hx hy => ih i y x hy hx
  | object hnames _ ih => exact .object (fun k => (hnames k).symm) fun k v w hv hw => ih k w v hw hv

lemma trans {a b c : Json} (h : a.Equal b) (h' : b.Equal c) : a.Equal c := by
  induction h generalizing c with
  | null => exact h'
  | bool b => exact h'
  | string s => exact h'
  | number h =>
    cases h' with
    | number h' => exact .number (JsonNumber.same_equivalence.trans h h')
  | @array xs ys hlen _ ih =>
    cases h' with
    | array hlen' hitems =>
      refine .array (hlen.trans hlen') fun i x z hx hz => ?_
      have hi : i < ys.length := hlen ▸ (List.getElem?_eq_some_iff.mp hx).1
      have hy : ys[i]? = some ys[i] := List.getElem?_eq_getElem hi
      exact ih i x _ hx hy (hitems i _ z hy hz)
  | @object fs gs hnames _ ih =>
    cases h' with
    | object hnames' hfields =>
      refine .object (fun k => (hnames k).trans (hnames' k)) fun k u w hu hw => ?_
      obtain ⟨v, hv⟩ : ∃ v, gs.get? k = some v := by
        rw [← Option.isSome_iff_exists, ← hnames k, hu]
        rfl
      exact ih k u v hu hv (hfields k v w hv hw)

end Equal

lemma sameItems_iff (xs ys : List Json) : sameItems xs ys = true ↔ xs.length = ys.length ∧
    ∀ (i : Nat) x y, xs[i]? = some x → ys[i]? = some y → x.same y = true := by
  induction xs generalizing ys with
  | nil => cases ys <;> simp [sameItems]
  | cons x xs ih =>
    cases ys with
    | nil => simp [sameItems]
    | cons y ys =>
      rw [sameItems, Bool.and_eq_true, ih, List.length_cons, List.length_cons, Nat.succ_inj]
      constructor
      · rintro ⟨hxy, hlen, hitems⟩
        refine ⟨hlen, fun i x' y' hx hy => ?_⟩
        cases i with
        | zero =>
          cases hx
          cases hy
          exact hxy
        | succ i => exact hitems i x' y' hx hy
      · rintro ⟨hlen, hitems⟩
        exact ⟨hitems 0 x y rfl rfl, hlen, fun i x' y' hx hy => hitems (i + 1) x' y' hx hy⟩

/-- Both have the field or neither has, and its values are the same. -/
def SameAt (fs gs : NameMap Json) (k : String) : Prop :=
  (fs.get? k).isSome = (gs.get? k).isSome ∧
    ∀ v w, fs.get? k = some v → gs.get? k = some w → v.same w = true

lemma get?_isSome_of_mem {gs : NameMap Json} {g : String × Json} (h : g ∈ gs) :
    (gs.get? g.1).isSome = true := by
  induction gs with
  | nil => cases h
  | cons p gs ih =>
    obtain ⟨j, w⟩ := p
    unfold NameMap.get?
    by_cases hj : j = g.1
    · rw [if_pos hj]
      rfl
    · rw [if_neg hj]
      rcases List.mem_cons.mp h with rfl | h
      · exact absurd rfl hj
      · exact ih h

lemma sameFields_iff (fs gs : NameMap Json) (seen : List String) :
    sameFields fs gs seen = true ↔ ∀ k, k ∉ seen → SameAt fs gs k := by
  induction fs generalizing seen with
  | nil =>
    rw [sameFields, List.all_eq_true]
    constructor
    · intro hall k hk
      have hnone : gs.get? k = none := by
        cases hg : gs.get? k with
        | none => rfl
        | some w =>
          obtain ⟨g, hm, rfl⟩ := List.mem_map.mp (NameMap.mem_names_of_get? hg)
          exact absurd (by simpa using hall g hm) hk
      refine ⟨?_, fun v w hv => by cases hv⟩
      rw [hnone]
      rfl
    · intro hall g hg
      have hsome := get?_isSome_of_mem hg
      by_cases hk : g.1 ∈ seen
      · simpa using hk
      · have hat := (hall g.1 hk).1
        rw [hsome] at hat
        cases hat
  | cons p fs ih =>
    obtain ⟨j, v⟩ := p
    -- a name that has come before counts no more
    have hrest : ∀ k, j ≠ k → (SameAt ((j, v) :: fs) gs k ↔ SameAt fs gs k) := by
      intro k hk
      have hget : NameMap.get? ((j, v) :: fs) k = NameMap.get? fs k := if_neg hk
      unfold SameAt
      rw [hget]
    have hfirst : NameMap.get? ((j, v) :: fs) j = some v := if_pos rfl
    rw [sameFields]
    by_cases hseen : j ∈ seen
    · rw [if_pos (by simpa using hseen), ih]
      have hne : ∀ k, k ∉ seen → j ≠ k := fun k hk he => hk (he ▸ hseen)
      exact forall₂_congr fun k hk => (hrest k (hne k hk)).symm
    · rw [if_neg (by simpa using hseen)]
      have hall : (∀ k, k ∉ seen → SameAt ((j, v) :: fs) gs k) ↔
          SameAt ((j, v) :: fs) gs j ∧ ∀ k, k ∉ j :: seen → SameAt fs gs k := by
        constructor
        · intro h
          refine ⟨h j hseen, fun k hk => ?_⟩
          rw [List.mem_cons, not_or] at hk
          exact (hrest k (Ne.symm hk.1)).mp (h k hk.2)
        · rintro ⟨hj, h⟩ k hk
          by_cases he : j = k
          · exact he ▸ hj
          · refine (hrest k he).mpr (h k ?_)
            rw [List.mem_cons, not_or]
            exact ⟨Ne.symm he, hk⟩
      rw [hall, ← ih]
      unfold SameAt
      rw [hfirst]
      cases gs.get? j with
      | none => simp
      | some w => simp

/-- The comparison decides structural equality. -/
lemma same_iff_equal (a b : Json) : a.same b = true ↔ a.Equal b := by
  induction a using Part.wellFounded.induction generalizing b with
  | h a ih =>
    constructor
    · intro h
      cases a <;> cases b <;> simp only [same, Bool.false_eq_true, beq_iff_eq] at h
      case null => exact .null
      case bool => exact h ▸ .bool _
      case number => exact .number h
      case string => exact h ▸ .string _
      case array xs ys =>
        obtain ⟨hlen, hitems⟩ := (sameItems_iff xs ys).mp h
        exact .array hlen fun i x y hx hy => (ih x (.item hx) y).mp (hitems i x y hx hy)
      case object fs gs =>
        have hat := fun k => (sameFields_iff fs gs []).mp h k List.not_mem_nil
        exact .object (fun k => (hat k).1) fun k v w hv hw =>
          (ih v (.field hv) w).mp ((hat k).2 v w hv hw)
    · intro h
      cases h with
      | null => rfl
      | bool b => simp [same]
      | number h => simpa only [same] using h
      | string s => simp [same]
      | array hlen hitems =>
        rw [same, sameItems_iff]
        exact ⟨hlen, fun i x y hx hy => (ih x (.item hx) y).mpr (hitems i x y hx hy)⟩
      | object hnames hfields =>
        rw [same, sameFields_iff]
        exact fun k _ =>
          ⟨hnames k, fun v w hv hw => (ih v (.field hv) w).mpr (hfields k v w hv hw)⟩

end Json

namespace Policy

/-- Contents that are the same come from two JSON values or from two failures. -/
lemma sameContent_iff (c c' : Content) : sameContent c c' = true ↔
    (∃ a b, c = .ok (.json a) ∧ c' = .ok (.json b) ∧ a.Equal b) ∨
      ∃ f g, c = .error f ∧ c' = .error g ∧ f.message = g.message := by
  rcases c with f | p <;> rcases c' with g | q
  · simp [sameContent]
  · simp [sameContent]
  · simp [sameContent]
  · cases p <;> cases q <;> simp [sameContent, Json.same_iff_equal]

lemma sameContent_ok (p q : Payload) : sameContent (.ok p) (.ok q) = true ↔
    ∃ a b, p = .json a ∧ q = .json b ∧ a.Equal b := by
  simp [sameContent_iff]

lemma sameContent_error (f g : Failure) :
    sameContent (.error f) (.error g) = true ↔ f.message = g.message := by
  simp [sameContent]

lemma sameContent_symm {c c' : Content} (h : sameContent c c' = true) :
    sameContent c' c = true := by
  rw [sameContent_iff] at h ⊢
  rcases h with ⟨a, b, hc, hc', hab⟩ | ⟨f, g, hc, hc', hfg⟩
  · exact .inl ⟨b, a, hc', hc, hab.symm⟩
  · exact .inr ⟨g, f, hc', hc, hfg.symm⟩

lemma sameContent_trans {c c' c'' : Content} (h : sameContent c c' = true)
    (h' : sameContent c' c'' = true) : sameContent c c'' = true := by
  rw [sameContent_iff] at h h' ⊢
  rcases h with ⟨a, b, rfl, rfl, hab⟩ | ⟨f, g, rfl, rfl, hfg⟩
  · rcases h' with ⟨b', d, hb, hd, hbd⟩ | ⟨g, _, hb, -⟩
    · cases hb
      exact .inl ⟨a, d, rfl, hd, hab.trans hbd⟩
    · cases hb
  · rcases h' with ⟨b, _, hg, -⟩ | ⟨g', e, hg, he, hge⟩
    · cases hg
    · cases hg
      exact .inr ⟨f, e, rfl, he, hfg.trans hge⟩

lemma identity_same_iff (r r' : Result) : Policy.identity.same r r' = true ↔ r.id = r'.id := by
  simp [same]

lemma json_same_iff (r r' : Result) : Policy.json.same r r' = true ↔
    r.id = r'.id ∨ sameContent r.content r'.content = true := by
  simp [same]

lemma json_differ {r r' : Result} (hid : r.id ≠ r'.id)
    (hc : ¬sameContent r.content r'.content = true) :
    Policy.json.same r r' = false ∧ Policy.json.same r' r = false := by
  rw [← Bool.not_eq_true, ← Bool.not_eq_true, json_same_iff, json_same_iff, not_or, not_or]
  exact ⟨⟨hid, hc⟩, hid.symm, fun h => hc (sameContent_symm h)⟩

/-- Comparing results as JSON is an equivalence that is coarser than identity. It compares JSON values by
structure, failures by message and everything else by identity. -/
theorem json_same_equivalence (content : Nat → Content) :
    let r (i : Nat) : Result := ⟨i, content i⟩
    (Equivalence fun i j => Policy.json.same (r i) (r j) = true) ∧
    (∀ i j, Policy.identity.same (r i) (r j) = true → Policy.json.same (r i) (r j) = true) ∧
    (∀ i j p f, content i = .ok p → content j = .error f →
      Policy.json.same (r i) (r j) = false ∧ Policy.json.same (r j) (r i) = false) ∧
    (∀ i j a p, content i = .ok (.json a) → content j = .ok p → p.kind ≠ .json →
      Policy.json.same (r i) (r j) = false ∧ Policy.json.same (r j) (r i) = false) ∧
    (∀ i j a b, content i = .ok (.json a) → content j = .ok (.json b) →
      (Policy.json.same (r i) (r j) = true ↔ a.Equal b)) ∧
    (∀ i j p q, content i = .ok p → content j = .ok q → p.kind ≠ .json → q.kind ≠ .json →
      (Policy.json.same (r i) (r j) = true ↔ i = j)) ∧
    (∀ i j f g, content i = .error f → content j = .error g →
      (Policy.json.same (r i) (r j) = true ↔ f.message = g.message)) := by
  intro r
  have hsame : ∀ i j, Policy.json.same (r i) (r j) = true ↔
      i = j ∨ sameContent (content i) (content j) = true := fun i j => json_same_iff (r i) (r j)
  refine ⟨⟨?_, ?_, ?_⟩, ?_, ?_, ?_, ?_, ?_, ?_⟩
  · intro i
    exact same_self _ _
  · intro i j h
    rw [hsame] at h ⊢
    exact h.imp Eq.symm sameContent_symm
  · intro i j k h h'
    rw [hsame] at h h' ⊢
    rcases h with rfl | h
    · exact h'
    · rcases h' with rfl | h'
      · exact .inr h
      · exact .inr (sameContent_trans h h')
  · intro i j h
    exact (hsame i j).mpr (.inl ((identity_same_iff _ _).mp h))
  · intro i j p f hi hj
    refine json_differ (fun hij => ?_) ?_
    · obtain rfl : i = j := hij
      cases hi.symm.trans hj
    · show ¬sameContent (content i) (content j) = true
      rw [hi, hj, sameContent_iff]
      simp
  · intro i j a p hi hj hp
    refine json_differ (fun hij => ?_) ?_
    · obtain rfl : i = j := hij
      cases hi.symm.trans hj
      exact hp rfl
    · show ¬sameContent (content i) (content j) = true
      rw [hi, hj, sameContent_ok]
      rintro ⟨_, b, _, rfl, _⟩
      exact hp rfl
  · intro i j a b hi hj
    rw [hsame, hi, hj, sameContent_ok]
    constructor
    · rintro (rfl | ⟨_, _, ⟨⟩, ⟨⟩, h⟩)
      · cases hi.symm.trans hj
        exact .refl a
      · exact h
    · exact fun h => .inr ⟨a, b, rfl, rfl, h⟩
  · intro i j p q hi hj hp _
    rw [hsame, hi, hj, sameContent_ok, or_iff_left]
    rintro ⟨a, _, rfl, _⟩
    exact hp rfl
  · intro i j f g hi hj
    rw [hsame, hi, hj, sameContent_error, or_iff_right_of_imp]
    rintro rfl
    cases hi.symm.trans hj
    rfl

/-- Two objects with their fields in another order and with zeros of another sign, the same text twice,
and failures of two kinds. -/
def assorted : Nat → Content
  | 0 => .ok (.json (.object [("x", .number (.float (.zero true))), ("y", .array [.null])]))
  | 1 => .ok (.json (.object [("y", .array [.null]), ("x", .number (.float (.zero false)))]))
  | 2 | 3 => .ok (.text "a")
  | 4 => .error (.nodeNotFound "a")
  | _ => .error (.validation "b" "o" "Node 'a' not found")

theorem json_same_equivalence_assorted :
    Policy.json.same ⟨0, assorted 0⟩ ⟨1, assorted 1⟩ = true ∧
    Policy.json.same ⟨2, assorted 2⟩ ⟨3, assorted 3⟩ = false ∧
    Policy.json.same ⟨4, assorted 4⟩ ⟨5, assorted 5⟩ = true ∧
    Policy.json.same ⟨0, assorted 0⟩ ⟨2, assorted 2⟩ = false ∧
    Policy.json.same ⟨0, assorted 0⟩ ⟨4, assorted 4⟩ = false ∧
    (Json.object [("x", .number (.float (.zero true))), ("y", .array [.null])]).Equal
      (.object [("y", .array [.null]), ("x", .number (.float (.zero false)))]) := by
  obtain ⟨-, -, hfailure, hkind, hjson, hother, hmessage⟩ := json_same_equivalence assorted
  have hsame : Policy.json.same ⟨0, assorted 0⟩ ⟨1, assorted 1⟩ = true := by decide +kernel
  refine ⟨hsame, ?_, (hmessage 4 5 _ _ rfl rfl).mpr rfl, (hkind 0 2 _ _ rfl rfl (by decide)).1,
    (hfailure 0 4 _ _ rfl rfl).1, (hjson 0 1 _ _ rfl rfl).mp hsame⟩
  rw [← Bool.not_eq_true, hother 2 3 _ _ rfl rfl (by decide) (by decide)]
  decide

end Policy

end Dataflow
