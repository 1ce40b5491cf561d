import DocQuery.Keyed
import DocQuery.Text.Cut
import DocQuery.Value.Identifier

/-!
# Values and documents

A value is one of twenty kinds, three of which hold other values.  A document
is a list of fields in a fixed order, looked up by name.  One more kind, the
deprecated pointer to a document of another collection, is left out: no
operation makes or asks for such a pointer, and it would have no comparable form.
-/

namespace DocQuery

inductive Value where
  | null
  | undefined
  | minKey
  | maxKey
  | boolean (b : Bool)
  | int32 (n : Int32)
  | int64 (n : Int64)
  | double (x : Float)
  | string (s : String)
  | array (items : List Value)
  | document (fields : List (String × Value))
  | objectId (id : ObjectId)
  /-- Milliseconds from the start of 1970. -/
  | instant (millis : Int64)
  | binary (subtype : UInt8) (bytes : List UInt8)
  | regex (pattern options : String)
  | timestamp (time increment : UInt32)
  | code (source : String)
  | scopedCode (source : String) (scope : List (String × Value))
  | symbol (name : String)
  | decimal (text : String)
  deriving Inhabited

abbrev Document := Keyed Value

/-!
# Equality

Two values are equal when they are built alike: kinds, numeric widths and the
order of fields all count.
-/

namespace Value

mutual

def beq : Value → Value → Bool
  | .null, .null => true
  | .undefined, .undefined => true
  | .minKey, .minKey => true
  | .maxKey, .maxKey => true
  | .boolean a, .boolean b => a = b
  | .int32 a, .int32 b => a = b
  | .int64 a, .int64 b => a = b
  | .double a, .double b => a = b
  | .string a, .string b => a = b
  | .array a, .array b => beqItems a b
  | .document a, .document b => beqFields a b
  | .objectId a, .objectId b => a = b
  | .instant a, .instant b => a = b
  | .binary a s, .binary b t => a = b && s = t
  | .regex a s, .regex b t => a = b && s = t
  | .timestamp a s, .timestamp b t => a = b && s = t
  | .code a, .code b => a = b
  | .scopedCode a s, .scopedCode b t => a = b && beqFields s t
  | .symbol a, .symbol b => a = b
  | .decimal a, .decimal b => a = b
  | _, _ => false

def beqItems : List Value → List Value → Bool
  | [], [] => true
  | a :: s, b :: t => beq a b && beqItems s t
  | _, _ => false

def beqFields : List (String × Value) → List (String × Value) → Bool
  | [], [] => true
  | (k, a) :: s, (l, b) :: t => k = l && beq a b && beqFields s t
  | _, _ => false

end

mutual

theorem eq_of_beq : ∀ {a b : Value}, beq a b = true → a = b
  | .array _, b, h => by
      cases b <;> simp [beq] at h ⊢
      exact eq_of_beqItems h
  | .document _, b, h => by
      cases b <;> simp [beq] at h ⊢
      exact eq_of_beqFields h
  | .scopedCode _ _, b, h => by
      cases b <;> simp [beq] at h ⊢
      exact And.intro h.left (eq_of_beqFields h.right)
  | .null, b, h | .undefined, b, h | .minKey, b, h | .maxKey, b, h => by
      cases b <;> simp [beq] at h ⊢
  | .boolean _, b, h | .int32 _, b, h | .int64 _, b, h | .double _, b, h
  | .string _, b, h | .objectId _, b, h | .instant _, b, h | .binary _ _, b, h
  | .regex _ _, b, h | .timestamp _ _, b, h | .code _, b, h | .symbol _, b, h
  | .decimal _, b, h => by
      cases b <;> simp [beq] at h ⊢
      exact h

theorem eq_of_beqItems : ∀ {s t : List Value}, beqItems s t = true → s = t
  | [], t, h => by
      cases t <;> simp [beqItems] at h ⊢
  | a :: s, t, h => by
      cases t with
      | nil =>
          simp [beqItems] at h
      | cons b t =>
          simp [beqItems] at h
          rw [eq_of_beq h.left, eq_of_beqItems h.right]

theorem eq_of_beqFields : ∀ {s t : List (String × Value)}, beqFields s t = true → s = t
  | [], t, h => by
      cases t <;> simp [beqFields] at h ⊢
  | (k, a) :: s, t, h => by
      cases t with
      | nil =>
          simp [beqFields] at h
      | cons b t =>
          obtain ⟨l, b⟩ := b
          simp [beqFields] at h
          rw [h.left.left, eq_of_beq h.left.right, eq_of_beqFields h.right]

end

mutual

theorem beq_refl : ∀ a : Value, beq a a = true
  | .array items => by
      simp [beq, beqItems_refl items]
  | .document fields => by
      simp [beq, beqFields_refl fields]
  | .scopedCode _ scope => by
      simp [beq, beqFields_refl scope]
  | .null | .undefined | .minKey | .maxKey | .boolean _ | .int32 _ | .int64 _ | .double _
  | .string _ | .objectId _ | .instant _ | .binary _ _ | .regex _ _ | .timestamp _ _
  | .code _ | .symbol _ | .decimal _ => by
      simp [beq]

theorem beqItems_refl : ∀ s : List Value, beqItems s s = true
  | [] => rfl
  | a :: s => by
      simp [beqItems, beq_refl a, beqItems_refl s]

theorem beqFields_refl : ∀ s : List (String × Value), beqFields s s = true
  | [] => rfl
  | (k, a) :: s => by
      simp [beqFields, beq_refl a, beqFields_refl s]

end

instance : DecidableEq Value := fun a b =>
  if h : beq a b = true then
    .isTrue (eq_of_beq h)
  else
    .isFalse (fun e => h (e ▸ beq_refl a))

end Value

/-!
# Paths

A path names a field by the way to it: field names separated by points.  Only
documents are entered on the way, never arrays.
-/

def pathSteps (path : String) : List String :=
  (Text.splitAt '.' path.toList).map String.ofList

namespace Document

def follow? : Document → List String → Option Value
  | _, [] => none
  | d, [last] => Keyed.get? d last
  | d, step :: rest =>
      match Keyed.get? d step with
      | some (.document inner) => follow? inner rest
      | _ => none

def lookup? (d : Document) (path : String) : Option Value :=
  follow? d (pathSteps path)

end Document
end DocQuery
