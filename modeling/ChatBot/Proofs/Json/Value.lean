import Mathlib.Data.String.Basic
import Mathlib.Tactic
import ChatBot.Json.Reading

/-!
Values and nodes of JSON.

* `Json.induct`, `Node.induct`: induction on a value and on a node, with a hypothesis for each item
  and each field;
* `Ordered`: the keys of all objects in a value ascend. `ordered_of_value?` says
  that only such values are read;
* `Within`: the numbers in a value have some property, and its arrays and objects do not enclose one
  another too often;
* `value?_ofValue`: the node of an ordered value has this value.
-/

namespace ChatBot

namespace Json

/-! ### Induction -/

/-- Induction on a value. -/
@[elab_as_elim]
theorem induct {P : Json → Prop} (null : P .null) (bool : ∀ b, P (.bool b))
    (number : ∀ x, P (.number x)) (string : ∀ s, P (.string s))
    (array : ∀ items, (∀ v ∈ items, P v) → P (.array items))
    (object : ∀ fields, (∀ f ∈ fields, P f.2) → P (.object fields)) : ∀ v, P v
  | .null => null
  | .bool b => bool b
  | .number x => number x
  | .string s => string s
  | .array items => array items fun v _ => induct null bool number string array object v
  | .object fields => object fields fun f _ => induct null bool number string array object f.2
termination_by v => sizeOf v
decreasing_by
  · have := List.sizeOf_lt_of_mem ‹v ∈ items›
    simp only [Json.array.sizeOf_spec]
    omega
  · have := List.sizeOf_lt_of_mem ‹f ∈ fields›
    obtain ⟨key, v⟩ := f
    simp only [Json.object.sizeOf_spec, Prod.mk.sizeOf_spec] at *
    omega

/-- Induction on a node. -/
@[elab_as_elim]
theorem Node.induct {P : Node → Prop} (null : P .null) (bool : ∀ b, P (.bool b))
    (number : ∀ x, P (.number x)) (string : ∀ s, P (.string s))
    (array : ∀ items, (∀ v ∈ items, P v) → P (.array items))
    (object : ∀ fields, (∀ f ∈ fields, P f.2) → P (.object fields)) : ∀ v, P v
  | .null => null
  | .bool b => bool b
  | .number x => number x
  | .string s => string s
  | .array items => array items fun v _ => Node.induct null bool number string array object v
  | .object fields => object fields fun f _ => Node.induct null bool number string array object f.2
termination_by v => sizeOf v
decreasing_by
  · have := List.sizeOf_lt_of_mem ‹v ∈ items›
    simp only [Node.array.sizeOf_spec]
    omega
  · have := List.sizeOf_lt_of_mem ‹f ∈ fields›
    obtain ⟨key, v⟩ := f
    simp only [Node.object.sizeOf_spec, Prod.mk.sizeOf_spec] at *
    omega

/-! ### Keys in order -/

namespace Fields

/-- A key beyond all others is put at the end. -/
lemma insert_of_forall_lt {fields : Fields} {key : String} (h : ∀ f ∈ fields, f.1 < key)
    (value : Json) : fields.insert key value = fields ++ [(key, value)] := by
  induction fields with
  | nil => rfl
  | cons f rest ih =>
      obtain ⟨k, v⟩ := f
      have hlt : k < key := h (k, v) List.mem_cons_self
      have hne : (key == k) = false := beq_eq_false_iff_ne.2 (ne_of_gt hlt)
      simp only [insert, hne, Bool.false_eq_true, if_false, if_neg (lt_asymm hlt), List.cons_append]
      rw [ih fun f hf => h f (List.mem_cons_of_mem _ hf)]

/-- The fields after a replacement are the new one and fields that were there before. -/
lemma mem_insert {fields : Fields} {key : String} {value : Json} {f : String × Json}
    (h : f ∈ fields.insert key value) : f = (key, value) ∨ f ∈ fields := by
  induction fields with
  | nil => exact .inl (by simpa [insert] using h)
  | cons g rest ih =>
      obtain ⟨k, v⟩ := g
      unfold insert at h
      split at h
      · rcases List.mem_cons.mp h with rfl | h
        · exact .inl rfl
        · exact .inr (List.mem_cons_of_mem _ h)
      · split at h
        · rcases List.mem_cons.mp h with rfl | h
          · exact .inl rfl
          · exact .inr h
        · rcases List.mem_cons.mp h with rfl | h
          · exact .inr List.mem_cons_self
          · exact (ih h).imp id (List.mem_cons_of_mem _)

/-- The keys still ascend after a replacement. -/
lemma Ascending.insert {fields : Fields} (h : fields.Ascending) (key : String) (value : Json) :
    (fields.insert key value).Ascending := by
  induction fields with
  | nil => exact List.pairwise_singleton _ _
  | cons f rest ih =>
      obtain ⟨k, v⟩ := f
      obtain ⟨hhead, htail⟩ := List.pairwise_cons.mp h
      unfold Fields.insert
      split
      · next heq =>
        obtain rfl : key = k := by simpa using heq
        exact List.pairwise_cons.mpr ⟨hhead, htail⟩
      · next hne =>
        split
        · next hlt =>
          refine List.pairwise_cons.mpr ⟨fun g hg => ?_, h⟩
          rcases List.mem_cons.mp hg with rfl | hg
          · exact hlt
          · exact lt_trans hlt (hhead g hg)
        · next hnlt =>
          refine List.pairwise_cons.mpr ⟨fun g hg => ?_, ih htail⟩
          rcases mem_insert hg with rfl | hg
          · exact lt_of_le_of_ne (not_lt.mp hnlt) fun heq => hne (beq_iff_eq.mpr heq.symm)
          · exact hhead g hg

end Fields

/-- The keys of all objects in a value ascend. -/
inductive Ordered : Json → Prop
  | null : Ordered .null
  | bool (b : Bool) : Ordered (.bool b)
  | number (x : Number) : Ordered (.number x)
  | string (s : String) : Ordered (.string s)
  | array {items : List Json} (h : ∀ v ∈ items, Ordered v) : Ordered (.array items)
  | object {fields : Fields} (ha : fields.Ascending) (h : ∀ f ∈ fields, Ordered f.2) :
      Ordered (.object fields)

namespace Node

lemma ordered_of_values? {room : ℕ} {items : List Node} {vs : List Json}
    (ih : ∀ n ∈ items, ∀ v, n.value? room = some v → v.Ordered)
    (h : values? room items = some vs) : ∀ v ∈ vs, v.Ordered := by
  induction items generalizing vs with
  | nil =>
      obtain rfl : [] = vs := by simpa [values?] using h
      simp
  | cons n rest ihrest =>
      simp only [values?, Option.bind_eq_bind, Option.bind_eq_some_iff, Option.pure_def] at h
      obtain ⟨v, hv, ws, hws, heq⟩ := h
      obtain rfl : v :: ws = vs := by simpa using heq
      intro w hw
      rcases List.mem_cons.mp hw with rfl | hw
      · exact ih n List.mem_cons_self _ hv
      · exact ihrest (fun n hn => ih n (List.mem_cons_of_mem _ hn)) hws w hw

lemma ordered_of_fields? {room : ℕ} {nodes : List (Option String × Node)} {done fields : Fields}
    (ih : ∀ n ∈ nodes, ∀ v, n.2.value? room = some v → v.Ordered) (hdone : done.Ascending)
    (hvalues : ∀ f ∈ done, f.2.Ordered) (h : fields? room done nodes = some fields) :
    fields.Ascending ∧ ∀ f ∈ fields, f.2.Ordered := by
  induction nodes generalizing done with
  | nil =>
      obtain rfl : done = fields := by simpa [fields?] using h
      exact ⟨hdone, hvalues⟩
  | cons n rest ihrest =>
      obtain ⟨key, n⟩ := n
      simp only [fields?, Option.bind_eq_bind, Option.bind_eq_some_iff] at h
      obtain ⟨k, rfl, v, hv, hrest⟩ := h
      refine ihrest (fun n hn => ih n (List.mem_cons_of_mem _ hn)) (hdone.insert k v) ?_ hrest
      intro f hf
      rcases Fields.mem_insert hf with rfl | hf
      · exact ih (some k, n) List.mem_cons_self v hv
      · exact hvalues f hf

/-- The values that are read have their keys in order. -/
theorem ordered_of_value? (n : Node) :
    ∀ (room : ℕ) (v : Json), n.value? room = some v → v.Ordered := by
  induction n using Node.induct with
  | null =>
      intro room v h
      obtain rfl : .null = v := by simpa [value?] using h
      exact .null
  | bool b =>
      intro room v h
      obtain rfl : .bool b = v := by simpa [value?] using h
      exact .bool b
  | number x =>
      intro room v h
      obtain ⟨y, -, rfl⟩ : ∃ y, x = some y ∧ .number y = v := by simpa [value?] using h
      exact .number y
  | string s =>
      intro room v h
      obtain ⟨t, -, rfl⟩ : ∃ t, s = some t ∧ .string t = v := by simpa [value?] using h
      exact .string t
  | array items ih =>
      intro room v h
      unfold value? at h
      split at h
      · simp at h
      · obtain ⟨vs, hvs, rfl⟩ := Option.map_eq_some_iff.mp h
        exact .array (ordered_of_values? (fun n hn => ih n hn _) hvs)
  | object nodes ih =>
      intro room v h
      unfold value? at h
      split at h
      · simp at h
      · obtain ⟨fields, hfields, rfl⟩ := Option.map_eq_some_iff.mp h
        obtain ⟨ha, ho⟩ := ordered_of_fields? (fun n hn => ih n hn _) List.Pairwise.nil
          (by simp) hfields
        exact .object ha ho

end Node

/-- The fields that are read from a text ascend, and so do those inside of them. -/
theorem Fields.ordered_of_ofText? {cs : List Char} {fields : Fields}
    (h : Fields.ofText? cs = some fields) : Ordered (.object fields) := by
  unfold Fields.ofText? at h
  split at h
  · next read hread =>
    obtain rfl : read = fields := by simpa using h
    simp only [Json.ofText?, Option.bind_eq_bind, Option.bind_eq_some_iff] at hread
    obtain ⟨n, -, hn⟩ := hread
    exact n.ordered_of_value? _ _ hn
  · simp at h

/-! ### Values that are read back -/

/-- The numbers in a value have the property `P`, and its arrays and objects enclose one another at
most `room` times. -/
inductive Within (P : Number → Prop) : ℕ → Json → Prop
  | null {room : ℕ} : Within P room .null
  | bool {room : ℕ} (b : Bool) : Within P room (.bool b)
  | number {room : ℕ} {x : Number} (h : P x) : Within P room (.number x)
  | string {room : ℕ} (s : String) : Within P room (.string s)
  | array {room : ℕ} {items : List Json} (h : ∀ v ∈ items, Within P room v) :
      Within P (room + 1) (.array items)
  | object {room : ℕ} {fields : Fields} (h : ∀ f ∈ fields, Within P room f.2) :
      Within P (room + 1) (.object fields)

lemma Within.mono {P Q : Number → Prop} {room : ℕ} {v : Json} (hpq : ∀ x, P x → Q x)
    (h : v.Within P room) : v.Within Q room := by
  induction h with
  | null => exact .null
  | bool b => exact .bool b
  | number hx => exact .number (hpq _ hx)
  | string s => exact .string s
  | array _ ih => exact .array ih
  | object _ ih => exact .object ih

namespace Node

lemma values?_ofValues {room : ℕ} {vs : List Json}
    (ih : ∀ v ∈ vs, (ofValue v).value? room = some v) :
    values? room (ofValues vs) = some vs := by
  induction vs with
  | nil => rfl
  | cons v rest ihrest =>
      simp only [ofValues, values?, ih v List.mem_cons_self,
        ihrest fun w hw => ih w (List.mem_cons_of_mem _ hw), Option.bind_eq_bind, Option.bind_some,
        Option.pure_def]

/-- Ascending fields are read one behind the other. -/
lemma fields?_ofFields {room : ℕ} {done fields : Fields} (ha : Fields.Ascending (done ++ fields))
    (ih : ∀ f ∈ fields, (ofValue f.2).value? room = some f.2) :
    fields? room done (ofFields fields) = some (done ++ fields) := by
  induction fields generalizing done with
  | nil => simp [ofFields, fields?]
  | cons f rest ihrest =>
      obtain ⟨key, v⟩ := f
      have hlast : ∀ g ∈ done, g.1 < key := fun g hg =>
        (List.pairwise_append.mp ha).2.2 g hg (key, v) List.mem_cons_self
      have hassoc : done ++ (key, v) :: rest = (done ++ [(key, v)]) ++ rest := by simp
      rw [hassoc] at ha ⊢
      have hv := ih (key, v) List.mem_cons_self
      simp only [ofFields, fields?, hv, Option.bind_eq_bind, Option.bind_some]
      rw [Fields.insert_of_forall_lt hlast]
      exact ihrest ha fun f hf => ih f (List.mem_cons_of_mem _ hf)

/-- The node of a value has this value, if the keys are in order and there is room enough. -/
theorem value?_ofValue {P : Number → Prop} {room : ℕ} {v : Json} (hw : v.Within P room)
    (ho : v.Ordered) : (ofValue v).value? room = some v := by
  induction hw with
  | null | bool | number | string => rfl
  | array _ ih =>
      cases ho with
      | array ho =>
          simp only [ofValue, value?]
          rw [if_neg (by omega), Nat.add_sub_cancel, values?_ofValues fun v hv => ih v hv (ho v hv)]
          rfl
  | object _ ih =>
      cases ho with
      | object ha ho =>
          simp only [ofValue, value?]
          rw [if_neg (by omega), Nat.add_sub_cancel,
            fields?_ofFields (by simpa using ha) fun f hf => ih f hf (ho f hf)]
          rfl

end Node

end Json

end ChatBot
