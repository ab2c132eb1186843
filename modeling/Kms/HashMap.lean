import Mathlib.Data.List.Nodup

/-! `std::collections::HashMap` as the keypair import uses it: `new`, `insert`, `get`,
`contains_key` and iteration. A map is its list of entries with no key twice, a field of the
structure, so no other map can be built; the hashing is left out. `HashMap::iter` hands the
entries out in an order the program does not choose: `IterOrder` is any arrangement that keeps
every entry once. `get?_foldl_insert` is what a loop of inserts leaves under a key: the value of
the last pair inserted under it. `mem_foldl_insert` is the special case of a loop in which no key
comes with two values: exactly the pairs inserted. -/
namespace Kms

/-- The entries of a map, no key twice. -/
structure HashMap (K V : Type) where
  entries : List (K × V)
  nodupKeys : (entries.map Prod.fst).Nodup

/-- The order in which `HashMap::iter` hands out entries: unspecified, each entry exactly once. -/
structure IterOrder (α : Type) where
  arrange : List α → List α
  perm : ∀ l, (arrange l).Perm l

namespace HashMap

variable {K V : Type}

/-- `HashMap::new`. -/
def empty : HashMap K V := ⟨[], List.nodup_nil⟩

/-- `for (k, v) in &map`: the entries in the order `order` picks. -/
def iter (m : HashMap K V) (order : IterOrder (K × V)) : List (K × V) := order.arrange m.entries

theorem iter_perm {m : HashMap K V} (order : IterOrder (K × V)) : (m.iter order).Perm m.entries :=
  order.perm _

/-- Iteration meets every key once, whatever the order. -/
theorem iter_nodupKeys {m : HashMap K V} (order : IterOrder (K × V)) :
    ((m.iter order).map Prod.fst).Nodup :=
  ((iter_perm order).map Prod.fst).nodup_iff.mpr m.nodupKeys

variable [DecidableEq K]

/-- `HashMap::insert`: the new value replaces the one under the same key. -/
def insert (m : HashMap K V) (k : K) (v : V) : HashMap K V :=
  ⟨(k, v) :: m.entries.filter (fun e => e.1 ≠ k), by
    refine List.nodup_cons.mpr ⟨?_, m.nodupKeys.sublist ((List.filter_sublist _).map Prod.fst)⟩
    simp⟩

/-- `HashMap::get`. -/
def get? (m : HashMap K V) (k : K) : Option V :=
  (m.entries.find? fun e => e.1 = k).map Prod.snd

/-- `HashMap::contains_key`. -/
def containsKey (m : HashMap K V) (k : K) : Bool := (m.get? k).isSome

variable {m : HashMap K V} {k : K} {v : V} {e : K × V}

theorem mem_insert : e ∈ (m.insert k v).entries ↔ e = (k, v) ∨ (e ∈ m.entries ∧ e.1 ≠ k) := by
  simp [insert]

/-- Keys being unique, the value found under a key is the one it is stored with. -/
theorem get?_eq_some_iff : m.get? k = some v ↔ (k, v) ∈ m.entries := by
  constructor
  · intro found
    simp only [get?, Option.map_eq_some'] at found
    obtain ⟨e', found, rfl⟩ := found
    have sameKey : e'.1 = k := by simpa using List.find?_some found
    subst sameKey
    exact List.mem_of_find?_eq_some found
  · intro stored
    cases found : m.entries.find? (fun e => e.1 = k) with
    | none => simpa using List.find?_eq_none.mp found _ stored
    | some e' =>
      have sameKey : e'.1 = k := by simpa using List.find?_some found
      have unique := List.inj_on_of_nodup_map m.nodupKeys (List.mem_of_find?_eq_some found) stored
      simp [get?, found, unique sameKey]

theorem containsKey_iff : m.containsKey k = true ↔ ∃ v, (k, v) ∈ m.entries := by
  simp [containsKey, Option.isSome_iff_exists, get?_eq_some_iff]

theorem get?_insert (k' : K) : (m.insert k v).get? k' = if k = k' then some v else m.get? k' := by
  split_ifs with same
  · subst same
    exact get?_eq_some_iff.mpr (mem_insert.mpr (.inl rfl))
  · apply Option.ext
    intro v'
    simp [get?_eq_some_iff, mem_insert, Ne.symm same]

/-- After a loop of inserts, a key holds the value of the last pair inserted under it, or its
value before the loop when no pair has that key. -/
theorem get?_foldl_insert (pairs : List (K × V)) (m : HashMap K V) (k : K) :
    (pairs.foldl (fun acc p => acc.insert p.1 p.2) m).get? k =
      ((pairs.reverse.find? fun p => p.1 = k).map Prod.snd).or (m.get? k) := by
  induction pairs generalizing m with
  | nil => simp
  | cons p rest ih =>
    rw [List.foldl_cons, ih, get?_insert, List.reverse_cons, List.find?_append]
    cases rest.reverse.find? fun p => p.1 = k <;> by_cases same : p.1 = k <;> simp [same]

/-- Inserting pairs of which no two share a key but not the value leaves exactly those pairs
besides the map's own. -/
theorem mem_foldl_insert (pairs : List (K × V))
    (functional : ∀ p ∈ m.entries ++ pairs, ∀ q ∈ m.entries ++ pairs, p.1 = q.1 → p = q) :
    e ∈ (pairs.foldl (fun acc p => acc.insert p.1 p.2) m).entries ↔ e ∈ m.entries ∨ e ∈ pairs := by
  induction pairs generalizing m with
  | nil => simp
  | cons p rest ih =>
    have shrink (q : K × V) :
        (q = p ∨ q ∈ m.entries ∧ q.1 ≠ p.1) ∨ q ∈ rest → q ∈ m.entries ∨ q = p ∨ q ∈ rest := by
      rintro ((rfl | ⟨stored, -⟩) | later)
      exacts [.inr (.inl rfl), .inl stored, .inr (.inr later)]
    have inside : ∀ q ∈ (m.insert p.1 p.2).entries ++ rest, q ∈ m.entries ++ p :: rest := by
      intro q mem
      simp only [List.mem_append, mem_insert, List.mem_cons] at mem ⊢
      exact shrink q mem
    rw [List.foldl_cons, ih fun a ha b hb => functional a (inside a ha) b (inside b hb), mem_insert,
      List.mem_cons]
    refine ⟨shrink e, ?_⟩
    · rintro (stored | rfl | later)
      · by_cases same : e.1 = p.1
        · exact .inl (.inl (functional e (by simp [stored]) p (by simp) same))
        · exact .inl (.inr ⟨stored, same⟩)
      · exact .inl (.inl rfl)
      · exact .inr later

end HashMap

end Kms
