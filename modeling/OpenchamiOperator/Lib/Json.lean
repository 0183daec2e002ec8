import OpenchamiOperator.Lib.GoMap

/-! # Documents, struct tags and schema defaults

A Go struct is written as a JSON object, one member for each field as its tag says, and read back the
same way. Between the two the API server fills in what the schema has a default for. `Codec` puts the
three together for one type, `Member` for one field of a struct. There is no `null`: a pointer is
written only if it is not nil, and the API server drops a null.

* `find_objectOf`: each field of a struct is found under its name.
* `Codec.struct`: what is written is read back as it was, and after the server filled in the defaults
  as `filled` says, if the fields of the struct have different names and are all listed. -/

namespace OpenchamiOperator.Lib

inductive Json where
  | bool (b : Bool)
  | num (n : ℤ)
  | str (s : String)
  | arr (items : List Json)
  | obj (members : List (String × Json))

/-- A Go type with its encoding and its schema. `empty` says what `omitempty` leaves out, `defaulted`
is what the API server makes of a value by the defaults of the schema inside it, and `filled` is the
same for the Go value. -/
structure Codec (α : Type) where
  zero : α
  empty : α → Bool
  encode : α → Json
  decode : Json → Option α
  defaulted : Json → Json
  filled : α → α
  zero_of_empty : ∀ a, empty a = true → a = zero
  decode_encode : ∀ a, decode (encode a) = some a
  decode_defaulted : ∀ a, decode (defaulted (encode a)) = some (filled a)

/-- A field of the Go struct `σ`: what is written for it, if anything, how the member of the object
is read, and what the API server makes of that member. `copy s t` and `fill s t` are `t` with the
field of `s`, and with what the defaults make of it. -/
structure Member (σ : Type) where
  name : String
  write : σ → Option Json
  read : Option Json → σ → Option σ
  property : Option Json → Option Json
  copy : σ → σ → σ
  fill : σ → σ → σ
  read_write : ∀ s t, read (write s) t = some (copy s t)
  read_property : ∀ s t, read (property (write s)) t = some (fill s t)

/-! ### Scalars -/

namespace Codec

variable {α β : Type}

/-- A type without structure: nothing below it has a default. -/
def scalar [DecidableEq α] (zero : α) (encode : α → Json) (decode : Json → Option α)
    (h : ∀ a, decode (encode a) = some a) : Codec α where
  zero := zero
  empty a := decide (a = zero)
  encode := encode
  decode := decode
  defaulted := id
  filled := id
  zero_of_empty _ := of_decide_eq_true
  decode_encode := h
  decode_defaulted := h

def bool : Codec Bool :=
  scalar false .bool (fun | .bool b => some b | _ => none) fun _ => rfl

def int : Codec ℤ := scalar 0 .num (fun | .num n => some n | _ => none) fun _ => rfl

def string : Codec String := scalar "" .str (fun | .str s => some s | _ => none) fun _ => rfl

/-- A string type with fixed values, given by their texts. -/
def text [DecidableEq α] (zero : α) (texts : α → String) (all : List α)
    (h : ∀ a, (all.find? fun b => texts b = texts a) = some a) : Codec α :=
  scalar zero (fun a => .str (texts a))
    (fun | .str s => all.find? fun b => texts b = s | _ => none) h

/-- A value with its own encoding as a string, which `omitempty` never leaves out. -/
def quantity (zero : String) : Codec String where
  __ := string
  zero := zero
  empty _ := false
  zero_of_empty _ h := by cases h

/-! ### Lists and maps -/

theorem mapM_of_forall {γ : Type} {f : β → Option γ} {g : α → β} {k : α → γ} :
    ∀ {l : List α}, (∀ a ∈ l, f (g a) = some (k a)) → (l.map g).mapM f = some (l.map k)
  | [], _ => rfl
  | a :: l, h => by
    have ha := h a (by simp)
    have hl := mapM_of_forall fun b hb => h b (List.mem_cons_of_mem a hb)
    simp [ha, hl]

/-- A slice; one without elements is left out. -/
def list (c : Codec α) : Codec (List α) where
  zero := []
  empty l := l.isEmpty
  encode l := .arr (l.map c.encode)
  decode
    | .arr l => l.mapM c.decode
    | _ => none
  defaulted
    | .arr l => .arr (l.map c.defaulted)
    | j => j
  filled l := l.map c.filled
  zero_of_empty l h := by simpa using h
  decode_encode l := by
    have h := @mapM_of_forall α Json α c.decode c.encode id l fun a _ => c.decode_encode a
    simpa using h
  decode_defaulted l := by
    have h := @mapM_of_forall α Json α c.decode (fun a => c.defaulted (c.encode a)) c.filled l
      fun a _ => c.decode_defaulted a
    simpa [Function.comp_def] using h

theorem decode_entries (m : GoMap String) :
    ((m.entries.map fun e => (e.1, Json.str e.2)).mapM fun e =>
      (string.decode e.2).map fun v => (e.1, v)).map GoMap.ofList = some m := by
  have h := @mapM_of_forall (String × String) (String × Json) (String × String)
    (fun e => (string.decode e.2).map fun v => (e.1, v)) (fun e => (e.1, .str e.2)) id m.entries
    fun _ _ => rfl
  rw [h, List.map_id, Option.map_some, GoMap.ofList_entries]

/-- A map of strings; one without entries is left out. -/
def stringMap : Codec (GoMap String) where
  zero := .empty
  empty m := m.entries.isEmpty
  encode m := .obj (m.entries.map fun e => (e.1, .str e.2))
  decode
    | .obj l => (l.mapM fun e => (string.decode e.2).map fun v => (e.1, v)).map GoMap.ofList
    | _ => none
  defaulted := id
  filled := id
  zero_of_empty m h := by
    obtain ⟨entries, hsorted⟩ := m
    cases List.isEmpty_iff.mp h
    rfl
  decode_encode m := decode_entries m
  decode_defaulted m := decode_entries m

end Codec

namespace Codec

variable {α : Type} (c : Codec α)

/-- What the defaults make of a field that `omitempty` leaves out when it is empty. -/
def filledOr (default : Option α) (a : α) : α :=
  if c.empty a then (default.map c.filled).getD c.zero else c.filled a

/-- Nothing below the type has a default. -/
def Plain : Prop := ∀ a, c.filled a = a

variable {c}

theorem filledOr_none_eq_iff {a : α} (hzero : c.filled c.zero = c.zero) :
    c.filledOr none a = a ↔ c.filled a = a := by
  unfold filledOr
  split_ifs with h
  · have ha := c.zero_of_empty a h
    simp [ha, hzero]
  · rfl

theorem filledOr_none_of_plain (hc : c.Plain) (a : α) : c.filledOr none a = a :=
  (filledOr_none_eq_iff (hc c.zero)).mpr (hc a)

theorem filledOr_some_eq_iff (hc : c.Plain) (hempty : c.empty c.zero = true) {a d : α}
    (hd : d ≠ c.zero) : c.filledOr (some d) a = a ↔ a ≠ c.zero := by
  unfold filledOr
  by_cases h : a = c.zero
  · subst h
    simp [hempty, hc d, hd]
  · have ha : c.empty a = false := by
      by_contra hcon
      exact h (c.zero_of_empty a (by simpa using hcon))
    simp [ha, hc a, h]

theorem map_filled (hc : c.Plain) (o : Option α) : o.map c.filled = o := by
  cases o with
  | none => rfl
  | some a => rw [Option.map_some, hc a]

theorem plain_list (hc : c.Plain) : c.list.Plain := fun l => by
  have hid : c.filled = id := funext hc
  show l.map c.filled = l
  rw [hid, List.map_id]

end Codec

theorem Codec.encode_injective {α : Type} (c : Codec α) : Function.Injective c.encode := by
  intro a b h
  have hdecode := congrArg c.decode h
  rw [c.decode_encode, c.decode_encode] at hdecode
  exact Option.some.inj hdecode

/-! ### Fields of a struct -/

namespace Member

section Constructors

variable {σ τ α : Type} (name : String) (get : σ → α) (set : α → σ → σ) (c : Codec α)

/-- Reading the member of a field; a missing one leaves the zero value. -/
def readInto (j : Option Json) (t : σ) : Option σ :=
  match j with
  | none => some (set c.zero t)
  | some v => (c.decode v).map fun a => set a t

/-- A field with the tag `json:"name"`. -/
def required : Member σ where
  name := name
  write s := some (c.encode (get s))
  read := readInto set c
  property j := j.map c.defaulted
  copy s := set (get s)
  fill s := set (c.filled (get s))
  read_write s t := by simp [readInto, c.decode_encode]
  read_property s t := by simp [readInto, c.decode_defaulted]

/-- A field with the tag `json:"name,omitempty"`, and the default its marker gives. -/
def optional (default : Option α) : Member σ where
  name := name
  write s := if c.empty (get s) then none else some (c.encode (get s))
  read := readInto set c
  property j := (j.or (default.map c.encode)).map c.defaulted
  copy s := set (get s)
  fill s := set (c.filledOr default (get s))
  read_write s t := by
    by_cases h : c.empty (get s)
    · simp [readInto, h, ← c.zero_of_empty _ h]
    · simp [readInto, h, c.decode_encode]
  read_property s t := by
    by_cases h : c.empty (get s)
    · cases default <;> simp [readInto, Codec.filledOr, h, c.decode_defaulted]
    · simp [readInto, Codec.filledOr, h, c.decode_defaulted]

/-- A pointer with the tag `json:"name,omitempty"`. -/
def pointer (get : σ → Option α) (set : Option α → σ → σ) (default : Option α) : Member σ where
  name := name
  write s := (get s).map c.encode
  read j t := match j with
    | none => some (set none t)
    | some v => (c.decode v).map fun a => set (some a) t
  property j := (j.or (default.map c.encode)).map c.defaulted
  copy s := set (get s)
  fill s := set (((get s).or default).map c.filled)
  read_write s t := by cases h : get s <;> simp [c.decode_encode]
  read_property s t := by
    cases h : get s with
    | none => cases default <;> simp [c.decode_defaulted]
    | some a => simp [c.decode_defaulted]

/-- A field of an embedded struct. -/
def embedded (m : Member σ) (get : τ → σ) (set : σ → τ → τ) : Member τ where
  name := m.name
  write t := m.write (get t)
  read j t := (m.read j (get t)).map fun s => set s t
  property := m.property
  copy s t := set (m.copy (get s) (get t)) t
  fill s t := set (m.fill (get s) (get t)) t
  read_write s t := by simp [m.read_write]
  read_property s t := by simp [m.read_property]

variable {name c} (s t : σ)

@[simp] theorem fill_required :
    (required name get set c).fill s t = set (c.filled (get s)) t := rfl

@[simp] theorem fill_optional (default : Option α) :
    (optional name get set c default).fill s t = set (c.filledOr default (get s)) t := rfl

@[simp] theorem fill_pointer (get : σ → Option α) (set : Option α → σ → σ) (default : Option α) :
    (pointer name c get set default).fill s t = set (((get s).or default).map c.filled) t := rfl

@[simp] theorem fill_embedded (m : Member σ) (get : τ → σ) (set : σ → τ → τ) (s t : τ) :
    (m.embedded get set).fill s t = set (m.fill (get s) (get t)) t := rfl

end Constructors

end Member

/-! ### Structs -/

section Struct

variable {σ : Type}

/-- The object with a member for each field that has a value. -/
def objectOf (ms : List (Member σ)) (value : Member σ → Option Json) : List (String × Json) :=
  ms.filterMap fun m => (value m).map fun j => (m.name, j)

theorem find_objectOf_of_notMem {value : Member σ → Option Json} {k : String} :
    ∀ {ms : List (Member σ)}, k ∉ ms.map Member.name → GoMap.find k (objectOf ms value) = none
  | [], _ => rfl
  | m :: ms, h => by
    have hms := @find_objectOf_of_notMem value k ms fun hmem => h (List.mem_cons_of_mem _ hmem)
    have hm : m.name ≠ k := fun heq => h (by simp [heq])
    unfold objectOf at hms ⊢
    cases hv : value m with
    | none => simp [hv, hms]
    | some j => simp [hv, hms, GoMap.find, hm]

theorem find_objectOf {value : Member σ → Option Json} {m : Member σ} :
    ∀ {ms : List (Member σ)}, (ms.map Member.name).Nodup → m ∈ ms →
      GoMap.find m.name (objectOf ms value) = value m
  | [], _, h => by cases h
  | n :: ms, hnames, h => by
    obtain ⟨hn, hms⟩ := List.nodup_cons.mp hnames
    rcases List.mem_cons.mp h with rfl | hmem
    · have hrest := @find_objectOf_of_notMem σ value m.name ms hn
      unfold objectOf at hrest ⊢
      cases hv : value m with
      | none => simp [hv, hrest]
      | some j => simp [hv, GoMap.find]
    · have ih := @find_objectOf value m ms hms hmem
      have hne : n.name ≠ m.name := fun heq => hn (heq ▸ List.mem_map_of_mem hmem)
      unfold objectOf at ih ⊢
      cases hv : value n with
      | none => simp [hv, ih]
      | some j => simp [hv, ih, GoMap.find, hne]

/-- Reading the fields one after the other. -/
def readAll (ms : List (Member σ)) (l : List (String × Json)) (t : σ) : Option σ :=
  ms.foldlM (fun t m => m.read (GoMap.find m.name l) t) t

theorem readAll_of_forall {l : List (String × Json)} {step : σ → Member σ → σ} :
    ∀ {ms : List (Member σ)} {t : σ},
      (∀ m ∈ ms, ∀ t, m.read (GoMap.find m.name l) t = some (step t m)) →
        readAll ms l t = some (ms.foldl step t)
  | [], t, _ => rfl
  | m :: ms, t, h => by
    have hm := h m (by simp) t
    have ih := @readAll_of_forall l step ms (step t m) fun n hn => h n (List.mem_cons_of_mem m hn)
    unfold readAll at ih ⊢
    simp [hm, ih]

/-- A struct with the given fields, whose names differ and which are all there are. Members that are
not in the schema are dropped. -/
def Codec.struct (zero : σ) (ms : List (Member σ)) (hnames : (ms.map Member.name).Nodup)
    (hall : ∀ s, ms.foldl (fun t m => m.copy s t) zero = s) : Codec σ where
  zero := zero
  empty _ := false
  encode s := .obj (objectOf ms fun m => m.write s)
  decode
    | .obj l => readAll ms l zero
    | _ => none
  defaulted
    | .obj l => .obj (objectOf ms fun m => m.property (GoMap.find m.name l))
    | j => j
  filled s := ms.foldl (fun t m => m.fill s t) zero
  zero_of_empty _ h := by cases h
  decode_encode s := by
    have hread := @readAll_of_forall σ (objectOf ms fun m => m.write s) (fun t m => m.copy s t) ms zero
      fun m hm t => by rw [find_objectOf hnames hm, m.read_write]
    rw [hall] at hread
    exact hread
  decode_defaulted s := by
    refine readAll_of_forall fun m hm t => ?_
    rw [find_objectOf hnames hm, find_objectOf hnames hm, m.read_property]

@[simp] theorem Codec.filled_struct (zero : σ) (ms : List (Member σ))
    (hnames : (ms.map Member.name).Nodup)
    (hall : ∀ s, ms.foldl (fun t m => m.copy s t) zero = s) (s : σ) :
    (Codec.struct zero ms hnames hall).filled s = ms.foldl (fun t m => m.fill s t) zero := rfl

end Struct

end OpenchamiOperator.Lib
