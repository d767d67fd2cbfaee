-- SUMMARY: Tables of named entries in the order in which their names first came.
import LinearDispatch.Text.Quoted

/-!
# Tables

A table gives each of its names one entry. Names keep the position at which
they first came, and an entry written again takes the place of the old one. The
coefficients of an expression, the values of a solution, the entries of a
registry and an environment are tables.
-/
namespace LinearDispatch

/-- Named entries in the order of their names' first appearance. -/
@[ext] structure Table (β : Type) where
  entries : List (String × β)
  distinct : (entries.map Prod.fst).Nodup
deriving DecidableEq

namespace Table

variable {β γ ε : Type}

/-! ## Entries as lists -/

/-- The first entry under a name. -/
def find? (name : String) : List (String × β) → Option β
  | []               => none
  | (key, x) :: rest => if key = name then some x else find? name rest

/-- Write an entry over the one of its name, or at the end if there is none. -/
def put (name : String) (x : β) : List (String × β) → List (String × β)
  | []               => [(name, x)]
  | (key, y) :: rest => if key = name then (key, x) :: rest else (key, y) :: put name x rest

/-- Convert the entries in their order, up to the first that fails. -/
def convert (f : β → Except ε γ) : List (String × β) → Except ε (List (String × γ))
  | []               => .ok []
  | (key, x) :: rest =>
    match f x with
    | .error e => .error e
    | .ok y    =>
      match convert f rest with
      | .error e => .error e
      | .ok ys   => .ok ((key, y) :: ys)

theorem mem_keys_put {name key : String} {x : β} {es : List (String × β)} :
    key ∈ (put name x es).map Prod.fst ↔ key = name ∨ key ∈ es.map Prod.fst := by
  induction es with
  | nil => simp [put]
  | cons e rest ih =>
    obtain ⟨k, y⟩ := e
    by_cases h : k = name
    · subst h; simp [put]
    · simp only [put, if_neg h, List.map_cons, List.mem_cons, ih]
      exact or_left_comm

theorem nodup_put {name : String} {x : β} {es : List (String × β)}
    (h : (es.map Prod.fst).Nodup) : ((put name x es).map Prod.fst).Nodup := by
  induction es with
  | nil => simp [put]
  | cons e rest ih =>
    obtain ⟨k, y⟩ := e
    simp only [List.map_cons, List.nodup_cons] at h
    by_cases hk : k = name
    · subst hk; simpa [put] using h
    · simp only [put, if_neg hk, List.map_cons, List.nodup_cons]
      refine ⟨fun hmem => ?_, ih h.2⟩
      rcases mem_keys_put.1 hmem with rfl | hmem
      · exact hk rfl
      · exact h.1 hmem

/-- A new name takes its place at the end. -/
theorem put_of_notMem {name : String} {x : β} {es : List (String × β)}
    (h : name ∉ es.map Prod.fst) : put name x es = es ++ [(name, x)] := by
  induction es with
  | nil => rfl
  | cons e rest ih =>
    obtain ⟨k, y⟩ := e
    rw [List.map_cons, List.mem_cons, not_or] at h
    rw [put, if_neg (Ne.symm h.1), ih h.2, List.cons_append]

/-- An entry written over itself changes nothing. -/
theorem put_of_find? {name : String} {x : β} {es : List (String × β)}
    (h : find? name es = some x) : put name x es = es := by
  induction es with
  | nil => cases h
  | cons e rest ih =>
    obtain ⟨k, y⟩ := e
    by_cases hk : k = name
    · rw [find?, if_pos hk, Option.some.injEq] at h
      rw [put, if_pos hk, h]
    · rw [find?, if_neg hk] at h
      rw [put, if_neg hk, ih h]

theorem find?_put {name key : String} {x : β} {es : List (String × β)} :
    find? key (put name x es) = if key = name then some x else find? key es := by
  induction es with
  | nil => simp [put, find?, eq_comm]
  | cons e rest ih =>
    obtain ⟨k, y⟩ := e
    by_cases h : k = name
    · subst h
      by_cases hk : key = k <;> simp [put, find?, hk, eq_comm]
    · by_cases hk : k = key
      · subst hk; simp [put, find?, h]
      · simp [put, find?, h, hk, ih]

theorem find?_isSome {name : String} {es : List (String × β)} :
    (find? name es).isSome ↔ name ∈ es.map Prod.fst := by
  induction es with
  | nil => simp [find?]
  | cons e rest ih =>
    obtain ⟨k, y⟩ := e
    by_cases h : k = name
    · simp [find?, h]
    · simp [find?, h, ih, Ne.symm h]

/-- What is found under a name is an entry of it. -/
theorem mem_of_find? {name : String} {x : β} {es : List (String × β)}
    (h : find? name es = some x) : (name, x) ∈ es := by
  induction es with
  | nil => cases h
  | cons e rest ih =>
    obtain ⟨k, y⟩ := e
    by_cases hk : k = name
    · rw [find?, if_pos hk, Option.some.injEq] at h
      rw [hk, h]
      exact List.mem_cons_self
    · rw [find?, if_neg hk] at h
      exact List.mem_cons_of_mem _ (ih h)

/-- With different names, every entry is found under its own. -/
theorem find?_of_mem {name : String} {x : β} {es : List (String × β)}
    (h : (es.map Prod.fst).Nodup) (hmem : (name, x) ∈ es) : find? name es = some x := by
  induction es with
  | nil => cases hmem
  | cons e rest ih =>
    obtain ⟨k, y⟩ := e
    rw [List.map_cons, List.nodup_cons] at h
    rcases List.mem_cons.1 hmem with heq | hrest
    · cases heq
      simp [find?]
    · have hne : k ≠ name := by
        rintro rfl
        exact h.1 (List.mem_map.2 ⟨_, hrest, rfl⟩)
      simp [find?, hne, ih h.2 hrest]

theorem keys_convert {f : β → Except ε γ} {es : List (String × β)} {fs : List (String × γ)}
    (h : convert f es = .ok fs) : fs.map Prod.fst = es.map Prod.fst := by
  induction es generalizing fs with
  | nil => simp only [convert, Except.ok.injEq] at h; simp [← h]
  | cons e rest ih =>
    obtain ⟨k, x⟩ := e
    simp only [convert] at h
    split at h
    · cases h
    · split at h
      · cases h
      · rename_i ys hys
        simp only [Except.ok.injEq] at h
        simp [← h, ih hys]

theorem convert_cons_eq_ok {f : β → Except ε γ} {name : String} {x : β} {es : List (String × β)}
    {fs : List (String × γ)} (h : convert f ((name, x) :: es) = .ok fs) :
    ∃ y ys, f x = .ok y ∧ convert f es = .ok ys ∧ fs = (name, y) :: ys := by
  rw [convert] at h
  split at h
  · cases h
  · next y hy =>
    split at h
    · cases h
    · next ys hys =>
      cases h
      exact ⟨y, ys, hy, hys, rfl⟩

/-- Entries are converted together if each of them can be. -/
theorem exists_convert_iff {f : β → Except ε γ} {es : List (String × β)} :
    (∃ fs, convert f es = .ok fs) ↔ ∀ e ∈ es, ∃ y, f e.2 = .ok y := by
  induction es with
  | nil => simp [convert]
  | cons e rest ih =>
    obtain ⟨key, x⟩ := e
    rw [List.forall_mem_cons, ← ih]
    constructor
    · rintro ⟨fs, h⟩
      obtain ⟨y, ys, hy, hys, rfl⟩ := convert_cons_eq_ok h
      exact ⟨⟨y, hy⟩, ys, hys⟩
    · rintro ⟨⟨y, hy⟩, ys, hys⟩
      exact ⟨(key, y) :: ys, by simp only [convert, hy, hys]⟩

/-- An entry may be converted before it is written or after. -/
theorem convert_put {f : β → Except ε γ} {name : String} {x : β} {y : γ} {es : List (String × β)}
    {fs : List (String × γ)} (h : convert f es = .ok fs) (hx : f x = .ok y) :
    convert f (put name x es) = .ok (put name y fs) := by
  induction es generalizing fs with
  | nil =>
    cases h
    simp [put, convert, hx]
  | cons e rest ih =>
    obtain ⟨k, z⟩ := e
    obtain ⟨w, ws, hw, hws, rfl⟩ := convert_cons_eq_ok h
    by_cases hk : k = name
    · simp [put, hk, convert, hx, hws]
    · simp [put, hk, convert, hw, ih hws]

/-! ## Operations -/

/-- The table without entries. -/
def empty : Table β :=
  ⟨[], by simp⟩

/-- Write an entry; a known name keeps its position. -/
def insert (t : Table β) (name : String) (x : β) : Table β :=
  ⟨put name x t.entries, nodup_put t.distinct⟩

/-- The entry under a name. -/
def get? (t : Table β) (name : String) : Option β :=
  find? name t.entries

/-- Whether a name has an entry. -/
def contains (t : Table β) (name : String) : Bool :=
  (t.get? name).isSome

/-- The names in their order. -/
def keys (t : Table β) : List String :=
  t.entries.map Prod.fst

/-- The table of a list of pairs: a name that comes again takes its last entry. -/
def ofList (pairs : List (String × β)) : Table β :=
  pairs.foldl (fun t (name, x) => t.insert name x) empty

@[simp] theorem get?_empty {name : String} : (empty : Table β).get? name = none :=
  rfl

@[simp] theorem get?_insert {t : Table β} {name key : String} {x : β} :
    (t.insert name x).get? key = if key = name then some x else t.get? key :=
  find?_put

theorem insert_of_get? {t : Table β} {name : String} {x : β} (h : t.get? name = some x) :
    t.insert name x = t :=
  Table.ext (put_of_find? h)

theorem mem_of_get? {t : Table β} {name : String} {x : β} (h : t.get? name = some x) :
    (name, x) ∈ t.entries :=
  mem_of_find? h

theorem get?_of_mem {t : Table β} {name : String} {x : β} (h : (name, x) ∈ t.entries) :
    t.get? name = some x :=
  find?_of_mem t.distinct h

theorem mem_keys_insert {t : Table β} {name key : String} {x : β} :
    key ∈ (t.insert name x).keys ↔ key = name ∨ key ∈ t.keys :=
  mem_keys_put

theorem contains_iff_mem_keys {t : Table β} {name : String} :
    t.contains name = true ↔ name ∈ t.keys :=
  find?_isSome

/-- Pairs of different names are the entries of their table, in their order. -/
theorem entries_ofList {pairs : List (String × β)} (h : (pairs.map Prod.fst).Nodup) :
    (ofList pairs).entries = pairs := by
  have hfold : ∀ t : Table β, ((t.entries ++ pairs).map Prod.fst).Nodup →
      (pairs.foldl (fun t (name, x) => t.insert name x) t).entries = t.entries ++ pairs := by
    clear h
    induction pairs with
    | nil => simp
    | cons e pairs ih =>
      intro t h
      obtain ⟨name, x⟩ := e
      have hnew : name ∉ t.entries.map Prod.fst := by
        rw [List.map_append, List.nodup_append] at h
        intro hmem
        exact h.2.2 name hmem name (by simp) rfl
      have hentries : (t.insert name x).entries = t.entries ++ [(name, x)] := put_of_notMem hnew
      rw [List.foldl_cons, ih _ (by simpa [hentries] using h), hentries, List.append_assoc,
        List.singleton_append]
  exact hfold empty h

theorem get?_ofList {pairs : List (String × β)} (h : (pairs.map Prod.fst).Nodup) {name : String}
    {x : β} (hmem : (name, x) ∈ pairs) : (ofList pairs).get? name = some x :=
  get?_of_mem (by rwa [entries_ofList h])

/-- The table with every entry converted, or the first failure in the order of the names. -/
def traverse (t : Table β) (f : β → Except ε γ) : Except ε (Table γ) :=
  match h : convert f t.entries with
  | .error e => .error e
  | .ok es   => .ok ⟨es, by rw [keys_convert h]; exact t.distinct⟩

theorem traverse_eq_ok_iff {t : Table β} {f : β → Except ε γ} {u : Table γ} :
    t.traverse f = .ok u ↔ convert f t.entries = .ok u.entries := by
  unfold traverse
  split
  · rename_i e he; simp [he]
  · rename_i es hes
    simp only [Except.ok.injEq]
    exact ⟨fun h => by rw [hes, ← h], fun h => by
      ext1; simpa [hes] using h⟩

theorem traverse_eq_error_iff {t : Table β} {f : β → Except ε γ} {e : ε} :
    t.traverse f = .error e ↔ convert f t.entries = .error e := by
  unfold traverse
  split
  · rename_i e' he; simp [he]
  · rename_i es hes; simp [hes]

theorem traverse_insert {t : Table β} {f : β → Except ε γ} {u : Table γ} {name : String} {x : β}
    {y : γ} (h : t.traverse f = .ok u) (hx : f x = .ok y) :
    (t.insert name x).traverse f = .ok (u.insert name y) :=
  traverse_eq_ok_iff.2 (convert_put (traverse_eq_ok_iff.1 h) hx)

/-- The table of pairs is converted by converting the pairs, also where a name comes again. -/
theorem traverse_ofList {f : β → Except ε γ} {pairs : List (String × β)}
    {converted : List (String × γ)} (h : convert f pairs = .ok converted) :
    (ofList pairs).traverse f = .ok (ofList converted) := by
  have hfold : ∀ (t : Table β) (u : Table γ), t.traverse f = .ok u →
      (pairs.foldl (fun t (name, x) => t.insert name x) t).traverse f
        = .ok (converted.foldl (fun u (name, y) => u.insert name y) u) := by
    induction pairs generalizing converted with
    | nil =>
      cases h
      exact fun _ _ ht => ht
    | cons e pairs ih =>
      intro t u ht
      obtain ⟨y, ys, hy, hys, rfl⟩ := convert_cons_eq_ok h
      exact ih hys _ _ (traverse_insert ht hy)
  exact hfold empty empty (traverse_eq_ok_iff.2 rfl)

/-- The entries in braces, each name quoted and followed by its entry. -/
def render (text : β → String) (t : Table β) : String :=
  "\x7b" ++ ", ".intercalate (t.entries.map fun (key, x) => Text.quote key ++ ": " ++ text x)
    ++ "\x7d"

end Table

end LinearDispatch
