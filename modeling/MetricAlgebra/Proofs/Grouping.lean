import Mathlib
import MetricAlgebra.Grouping

/-!
# Groups of a list

Members that are put one after the other into the groups of their keys end where a plain definition
puts them: `Grouping.parts` has one group for each key, in the order in which the keys first appear,
with the members of that key in order, and `Grouping.collect` summarises each of these groups from
its first member on (`Grouping.forall₂_collect`). This is a case of two runs side by side, which
keep groups related that every member keeps related (`rel_collect`).

No member is lost or kept twice (`flatMap_parts_perm`). Keeping the members whose keys pass a test
is keeping the groups whose keys do (`collect_filter`), and grouping groups by a coarser key gives
the groups of each coarser group (`parts_parts`).
-/

namespace MetricAlgebra.Grouping

/-! ## Distinct items in order of first appearance -/

section EraseDups

variable {κ κ' : Type} [DecidableEq κ] [DecidableEq κ']

/-- One item more is added at the end, if it is new. -/
theorem eraseDups_concat (ks : List κ) (k : κ) :
    (ks ++ [k]).eraseDups = if k ∈ ks then ks.eraseDups else ks.eraseDups ++ [k] := by
  rw [List.eraseDups_append]
  by_cases hk : k ∈ ks
  · have hnone : [k].removeAll ks = [] := by simp [List.removeAll, hk]
    rw [hnone, if_pos hk, List.eraseDups_nil, List.append_nil]
  · have hself : [k].removeAll ks = [k] := by simp [List.removeAll, hk]
    have hone : [k].eraseDups = [k] := by simp [List.eraseDups_cons]
    rw [hself, if_neg hk, hone]

/-- No item is left twice. -/
theorem nodup_eraseDups (ks : List κ) : ks.eraseDups.Nodup := by
  induction ks using List.reverseRecOn with
  | nil => simp
  | append_singleton ks k ih =>
    rw [eraseDups_concat]
    split
    · exact ih
    · rename_i hk
      refine List.nodup_append.2 ⟨ih, List.nodup_singleton k, fun a ha b hb hab => hk ?_⟩
      rw [← List.mem_singleton.1 hb, ← hab]
      exact List.mem_eraseDups.1 ha

/-- The same items are left of a list in another order. -/
theorem perm_eraseDups {ks ks' : List κ} (h : ks.Perm ks') : ks.eraseDups.Perm ks'.eraseDups := by
  refine (List.perm_ext_iff_of_nodup (nodup_eraseDups _) (nodup_eraseDups _)).2 fun k => ?_
  rw [List.mem_eraseDups, List.mem_eraseDups]
  exact h.mem_iff

/-- Items that fail a test do not count for the order of the others. -/
theorem eraseDups_filter (passes : κ → Bool) (ks : List κ) :
    (ks.filter passes).eraseDups = ks.eraseDups.filter passes := by
  induction ks using List.reverseRecOn with
  | nil => rfl
  | append_singleton ks k ih =>
    rw [eraseDups_concat, List.filter_append]
    by_cases hpass : passes k = true
    · rw [List.filter_cons_of_pos hpass, List.filter_nil, eraseDups_concat, ih]
      by_cases hk : k ∈ ks
      · rw [if_pos hk, if_pos (List.mem_filter.2 ⟨hk, hpass⟩)]
      · rw [if_neg hk, if_neg fun h => hk (List.mem_filter.1 h).1, List.filter_append,
          List.filter_cons_of_pos hpass, List.filter_nil]
    · rw [List.filter_cons_of_neg hpass, List.filter_nil, List.append_nil, ih]
      split
      · rfl
      · rw [List.filter_append, List.filter_cons_of_neg hpass, List.filter_nil, List.append_nil]

/-- Of images, those of repeated items do not count. -/
theorem eraseDups_map_eraseDups (g : κ → κ') (ks : List κ) :
    (ks.eraseDups.map g).eraseDups = (ks.map g).eraseDups := by
  induction ks using List.reverseRecOn with
  | nil => simp
  | append_singleton ks k ih =>
    rw [List.map_append, List.map_singleton, eraseDups_concat (ks.map g), eraseDups_concat ks]
    by_cases hk : k ∈ ks
    · have hg : g k ∈ ks.map g := List.mem_map_of_mem hk
      rw [if_pos hk, if_pos hg, ih]
    · -- A new item has a new image unless an earlier item has the same one.
      have hmem : g k ∈ ks.eraseDups.map g ↔ g k ∈ ks.map g := by simp
      rw [if_neg hk, List.map_append, List.map_singleton, eraseDups_concat, ih]
      simp only [hmem]

end EraseDups

variable {α κ β : Type} [DecidableEq κ]

/-! ## The groups of a list -/

/-- The groups of a list: each key once, in order of first appearance, with its members in order. -/
def parts (key : α → κ) (members : List α) : List (κ × List α) :=
  (members.map key).eraseDups.map fun k => (k, members.filter fun a => key a = k)

/-- The keys of the groups are those of the members. -/
theorem map_fst_parts (key : α → κ) (members : List α) :
    (parts key members).map Prod.fst = (members.map key).eraseDups := by
  unfold parts
  rw [List.map_map]
  exact List.map_id _

/-- A group has the members of its key, and there are some. -/
theorem snd_eq_of_mem_parts {key : α → κ} {members : List α} {part : κ × List α}
    (h : part ∈ parts key members) :
    part.2 = (members.filter fun a => key a = part.1) ∧ part.2 ≠ [] := by
  obtain ⟨k, hk, rfl⟩ := List.mem_map.1 h
  obtain ⟨a, ha, rfl⟩ := List.mem_map.1 (List.mem_eraseDups.1 hk)
  have hmem : a ∈ members.filter fun b => key b = key a := List.mem_filter.2 ⟨ha, by simp⟩
  exact ⟨rfl, List.ne_nil_of_mem hmem⟩

/-- Changing the group of a key among groups that are given by their keys. -/
theorem alter_map {ks : List κ} (hks : ks.Nodup) (f : κ → β) (k : κ) (start : β) (change : β → β) :
    alter k start change (ks.map fun k' => (k', f k')) =
      (if k ∈ ks then ks else ks ++ [k]).map fun k' =>
        (k', if k' = k then change (if k ∈ ks then f k' else start) else f k') := by
  induction ks with
  | nil => simp [alter]
  | cons k' ks ih =>
    obtain ⟨hk', hks⟩ := List.nodup_cons.1 hks
    rw [List.map_cons, alter]
    by_cases heq : k' = k
    · -- The keys behind are others, so that their groups stay.
      subst heq
      have hstay : ∀ k ∈ ks, (k, f k) = (k, if k = k' then change (f k) else f k) := by
        intro k hk
        have hne : k ≠ k' := fun heq => hk' (heq ▸ hk)
        rw [if_neg hne]
      simp only [List.mem_cons_self, if_true, List.map_cons]
      rw [List.map_congr_left hstay]
    · rw [if_neg heq, ih hks]
      have hmem : k ∈ k' :: ks ↔ k ∈ ks := by simp [Ne.symm heq]
      simp only [hmem]
      split <;> simp [heq]

/-- One member more goes to the end of the group of its key. -/
theorem parts_concat (key : α → κ) (members : List α) (a : α) :
    parts key (members ++ [a]) = alter (key a) [] (· ++ [a]) (parts key members) := by
  unfold parts
  rw [alter_map (nodup_eraseDups _), List.map_append, List.map_singleton, eraseDups_concat]
  simp only [List.mem_eraseDups]
  refine List.map_congr_left fun k hk => ?_
  rw [List.filter_append]
  by_cases hka : k = key a
  · subst hka
    have hself : [a].filter (fun b => key b = key a) = [a] := by simp
    rw [hself, if_pos rfl]
    split
    · rfl
    · -- A new key has no members yet.
      rename_i hnew
      have hnil : members.filter (fun b => key b = key a) = [] := by
        rw [List.filter_eq_nil_iff]
        intro b hb hkey
        exact hnew (List.mem_map.2 ⟨b, hb, of_decide_eq_true hkey⟩)
      rw [hnil]
  · have hother : [a].filter (fun b => key b = k) = [] := by simp [Ne.symm hka]
    rw [hother, if_neg hka, List.append_nil]

/-- One member more is pushed to the group of its key. -/
theorem collect_concat (key : α → κ) (start : α → β) (push : β → α → β) (members : List α) (a : α) :
    collect key start push (members ++ [a]) =
      alter (key a) (start a) (push · a) (collect key start push members) := by
  unfold collect
  rw [List.foldl_append]
  rfl

/-- The groups are what is collected when members are put behind each other. -/
theorem parts_eq_collect (key : α → κ) (members : List α) :
    parts key members = collect key (fun _ => []) (fun group a => group ++ [a]) members := by
  induction members using List.reverseRecOn with
  | nil => rfl
  | append_singleton members a ih => rw [parts_concat, collect_concat, ih]

/-! ## Runs side by side -/

/-- Whether two groups have the same key, and their contents are related. -/
def SameKey {γ : Type} (r : β → γ → Prop) (group : κ × β) (group' : κ × γ) : Prop :=
  group.1 = group'.1 ∧ r group.2 group'.2

/-- Related groups stay related when the group of one key is changed on both sides, if what is made
anew is related, and what is made of related contents. -/
theorem rel_alter {γ : Type} {r : β → γ → Prop} {start : β} {start' : γ} {change : β → β}
    {change' : γ → γ} {groups : List (κ × β)} {groups' : List (κ × γ)}
    (hnew : r (change start) (change' start'))
    (hchange : ∀ b c, r b c → r (change b) (change' c)) (k : κ)
    (h : List.Forall₂ (SameKey r) groups groups') :
    List.Forall₂ (SameKey r) (alter k start change groups) (alter k start' change' groups') := by
  induction h with
  | nil => exact .cons ⟨rfl, hnew⟩ .nil
  | @cons group group' groups groups' hgroup hrest ih =>
    obtain ⟨k', b⟩ := group
    obtain ⟨k'', c⟩ := group'
    obtain ⟨rfl, hbc⟩ := hgroup
    unfold alter
    split
    · exact .cons ⟨rfl, hchange b c hbc⟩ hrest
    · exact .cons ⟨rfl, hbc⟩ ih

/-- Of related members with the same keys, groups are collected whose contents are related, if the
first member of a group relates them and each further one keeps them related. -/
theorem rel_collect {α' γ : Type} {q : α → α' → Prop} {r : β → γ → Prop} {key : α → κ}
    {key' : α' → κ} {start : α → β} {start' : α' → γ} {push : β → α → β} {push' : γ → α' → γ}
    (hkey : ∀ a a', q a a' → key a = key' a')
    (hstart : ∀ a a', q a a' → r (push (start a) a) (push' (start' a') a'))
    (hpush : ∀ a a' b c, q a a' → r b c → r (push b a) (push' c a')) {members : List α}
    {members' : List α'} (h : List.Forall₂ q members members') :
    List.Forall₂ (SameKey r) (collect key start push members)
      (collect key' start' push' members') := by
  refine List.rel_foldl (P := List.Forall₂ (SameKey r)) ?_ .nil h
  intro groups groups' hgroups a a' ha
  dsimp only
  rw [hkey a a' ha]
  exact rel_alter (hstart a a' ha) (fun b c => hpush a a' b c ha) (key' a') hgroups

/-! ## Summaries of groups -/

/-- Whether a value with a key is the summary of a group: what pushing the members gives, from the
start that the first of them makes. -/
def Summary (start : α → β) (push : β → α → β) (part : κ × List α) (group : κ × β) : Prop :=
  part.1 = group.1 ∧ ∃ first rest, part.2 = first :: rest ∧
    group.2 = part.2.foldl push (start first)

/-- What is collected are the summaries of the groups, in order. -/
theorem forall₂_collect (key : α → κ) (start : α → β) (push : β → α → β) (members : List α) :
    List.Forall₂ (Summary start push) (parts key members) (collect key start push members) := by
  rw [parts_eq_collect]
  show List.Forall₂ (SameKey fun group b => ∃ first rest, group = first :: rest ∧
    b = group.foldl push (start first)) _ _
  refine rel_collect (q := Eq) ?_ ?_ ?_ (List.forall₂_refl members)
  · rintro a _ rfl
    rfl
  · rintro a _ rfl
    exact ⟨a, [], rfl, rfl⟩
  · rintro a _ _ _ rfl ⟨first, rest, rfl, rfl⟩
    refine ⟨first, rest ++ [a], rfl, ?_⟩
    rw [List.foldl_append]
    rfl

/-! ## Members and keys -/

/-- All members whose keys are among distinct ones are in the groups of these. -/
theorem flatMap_filter_perm (key : α → κ) (members : List α) {ks : List κ} (hks : ks.Nodup) :
    (ks.flatMap fun k => members.filter fun a => key a = k).Perm
      (members.filter fun a => key a ∈ ks) := by
  induction ks with
  | nil => simp
  | cons k ks ih =>
    obtain ⟨hk, hks⟩ := List.nodup_cons.1 hks
    rw [List.flatMap_cons]
    -- The members of the first key are apart from those of the others.
    have hfirst : (members.filter fun a => key a = k) =
        (members.filter fun a => key a ∈ k :: ks).filter fun a => key a = k := by
      rw [List.filter_filter]
      refine List.filter_congr fun a _ => ?_
      by_cases ha : key a = k <;> simp [ha]
    have hothers : (members.filter fun a => key a ∈ ks) =
        (members.filter fun a => key a ∈ k :: ks).filter fun a => !decide (key a = k) := by
      rw [List.filter_filter]
      refine List.filter_congr fun a _ => ?_
      by_cases ha : key a = k
      · have hnot : key a ∉ ks := ha ▸ hk
        simp [ha, hk]
      · simp [ha]
    have hsplit := List.filter_append_perm (fun a => decide (key a = k))
      (members.filter fun a => key a ∈ k :: ks)
    rw [← hfirst, ← hothers] at hsplit
    exact ((ih hks).append_left _).trans hsplit

/-- Every member is in one group, as often as in the list. -/
theorem flatMap_parts_perm (key : α → κ) (members : List α) :
    ((parts key members).flatMap Prod.snd).Perm members := by
  unfold parts
  rw [List.flatMap_map]
  have hall : (members.filter fun a => key a ∈ (members.map key).eraseDups) = members := by
    rw [List.filter_eq_self]
    intro a ha
    simpa using ⟨a, ha, rfl⟩
  have h := flatMap_filter_perm key members (nodup_eraseDups (members.map key))
  rwa [hall] at h

/-- The sizes of the groups add up to that of the list. -/
theorem sum_length_parts (key : α → κ) (members : List α) :
    ((parts key members).map fun part => part.2.length).sum = members.length := by
  have hlength := (flatMap_parts_perm key members).length_eq
  rwa [List.length_flatMap] at hlength

/-- Changing a group does nothing to the groups that pass a test on keys, if its key does not, and
else changes it there. -/
theorem filter_alter (p : κ → Bool) (k : κ) (start : β) (change : β → β) (groups : List (κ × β)) :
    (alter k start change groups).filter (fun group => p group.1) =
      if p k then alter k start change (groups.filter fun group => p group.1)
      else groups.filter fun group => p group.1 := by
  induction groups with
  | nil => cases hp : p k <;> simp [alter, hp]
  | cons group groups ih =>
    obtain ⟨k', b⟩ := group
    rw [alter]
    by_cases heq : k' = k
    · subst heq
      cases hp : p k' <;> simp [alter, hp]
    · rw [if_neg heq, List.filter_cons, ih]
      cases hp : p k <;> cases hp' : p k' <;> simp [alter, hp', heq]

/-- Of members whose keys pass a test, exactly the groups whose keys pass it are collected. -/
theorem collect_filter (key : α → κ) (start : α → β) (push : β → α → β) (p : κ → Bool)
    (members : List α) :
    collect key start push (members.filter fun a => p (key a)) =
      (collect key start push members).filter fun group => p group.1 := by
  induction members using List.reverseRecOn with
  | nil => rfl
  | append_singleton members a ih =>
    rw [collect_concat, filter_alter, List.filter_append, ← ih]
    cases hp : p (key a) with
    | true =>
      have hself : [a].filter (fun b => p (key b)) = [a] := by simp [hp]
      rw [hself, collect_concat, if_pos rfl]
    | false =>
      have hnone : [a].filter (fun b => p (key b)) = [] := by simp [hp]
      rw [hnone, List.append_nil, if_neg Bool.false_ne_true]

/-- Groups grouped by a coarser key are the groups of each coarser group. -/
theorem parts_parts {κ' : Type} [DecidableEq κ'] (key : α → κ) (coarse : κ → κ')
    (members : List α) :
    parts (fun part => coarse part.1) (parts key members) =
      (parts (fun a => coarse (key a)) members).map fun part => (part.1, parts key part.2) := by
  have hkeys : ((parts key members).map fun part => coarse part.1).eraseDups =
      (members.map fun a => coarse (key a)).eraseDups := by
    calc ((parts key members).map fun part => coarse part.1).eraseDups
        = (((parts key members).map Prod.fst).map coarse).eraseDups := by rw [List.map_map]; rfl
      _ = ((members.map key).map coarse).eraseDups := by
          rw [map_fst_parts, eraseDups_map_eraseDups]
      _ = (members.map fun a => coarse (key a)).eraseDups := by rw [List.map_map]; rfl
  have hmembers : ∀ k, ((parts key members).filter fun part => coarse part.1 = k) =
      parts key (members.filter fun a => coarse (key a) = k) := by
    intro k
    rw [parts_eq_collect, parts_eq_collect,
      collect_filter key (fun _ => []) _ (fun k' => coarse k' = k) members]
  calc parts (fun part => coarse part.1) (parts key members)
      = ((parts key members).map fun part => coarse part.1).eraseDups.map fun k =>
          (k, (parts key members).filter fun part => coarse part.1 = k) := rfl
    _ = (members.map fun a => coarse (key a)).eraseDups.map fun k =>
          (k, parts key (members.filter fun a => coarse (key a) = k)) := by
        rw [hkeys]
        simp only [hmembers]
    _ = (parts (fun a => coarse (key a)) members).map fun part => (part.1, parts key part.2) := by
        conv_rhs => rw [parts, List.map_map]
        rfl

/-- The first member of the first group is the first member. -/
theorem exists_parts_cons (key : α → κ) (first : α) (rest : List α) :
    ∃ members groups, parts key (first :: rest) = (key first, first :: members) :: groups := by
  unfold parts
  rw [List.map_cons, List.eraseDups_cons, List.map_cons, List.filter_cons_of_pos (by simp)]
  exact ⟨_, _, rfl⟩

/-! ## Groups of related lists -/

section Related

variable {γ : Type} {r : α → γ → Prop} {as : List α} {bs : List γ}

/-- Related items have the same images in order, if they have them each by itself. -/
theorem map_eq_of_forall₂ {δ : Type} {f : α → δ} {g : γ → δ} (hfg : ∀ a b, r a b → f a = g b)
    (h : List.Forall₂ r as bs) : as.map f = bs.map g := by
  induction h with
  | nil => rfl
  | cons hab _ ih => rw [List.map_cons, List.map_cons, hfg _ _ hab, ih]

/-- Every item on the right has one on the left that it is related to. -/
theorem exists_left_of_forall₂ (h : List.Forall₂ r as bs) {b : γ} (hb : b ∈ bs) :
    ∃ a ∈ as, r a b := by
  induction h with
  | nil => cases hb
  | cons hab _ ih =>
    rcases List.mem_cons.1 hb with rfl | hb
    · exact ⟨_, List.mem_cons_self, hab⟩
    · obtain ⟨a, ha, hab'⟩ := ih hb
      exact ⟨a, List.mem_cons_of_mem _ ha, hab'⟩

/-- Every item on the left has one on the right that is related to it. -/
theorem exists_right_of_forall₂ (h : List.Forall₂ r as bs) {a : α} (ha : a ∈ as) :
    ∃ b ∈ bs, r a b :=
  exists_left_of_forall₂ (List.Forall₂.flip h) ha

/-- Lists that are related item by item to one list are related by the common items. -/
theorem forall₂_of_common {δ : Type} {q : α → δ → Prop} {ds : List δ} (hbs : List.Forall₂ r as bs)
    (hds : List.Forall₂ q as ds) : List.Forall₂ (fun b d => ∃ a ∈ as, r a b ∧ q a d) bs ds := by
  induction hbs generalizing ds with
  | nil =>
    cases hds
    exact .nil
  | @cons a b as bs hab _ ih =>
    cases hds with
    | cons had hds =>
      refine .cons ⟨a, List.mem_cons_self, hab, had⟩ ((ih hds).imp ?_)
      rintro b d ⟨a', ha', hab', had'⟩
      exact ⟨a', List.mem_cons_of_mem a ha', hab', had'⟩

/-- Related lists with the same keys have related groups. -/
theorem forall₂_parts {key : α → κ} {key' : γ → κ} (hkey : ∀ a b, r a b → key a = key' b)
    (h : List.Forall₂ r as bs) :
    List.Forall₂ (fun part part' => part.1 = part'.1 ∧ List.Forall₂ r part.2 part'.2)
      (parts key as) (parts key' bs) := by
  unfold parts
  rw [map_eq_of_forall₂ hkey h, List.forall₂_map_left_iff, List.forall₂_map_right_iff,
    List.forall₂_same]
  intro k _
  refine ⟨rfl, List.rel_filter (fun a b hab => ?_) h⟩
  show decide (key a = k) = true ↔ decide (key' b = k) = true
  rw [hkey a b hab]

end Related

end MetricAlgebra.Grouping
