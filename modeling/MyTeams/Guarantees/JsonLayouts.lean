/-
**The layout of a JSON text does not matter.**

`Json` is a value as it is written. What it stands for is said without the parser: `Json.Denotes` relates
it to a `JsonVal` whose objects are maps, with a binding for every member and no other, and whose numbers
are exactly the integers. Nothing in it depends on the order of the members.

* `denotes_val`, `val_of_denotes` — a value with exact integers and distinct keys stands for one `JsonVal`;
* `parse_layout` — the parser returns it for every layout;
* `layout_independence` — so every text of the same value, with its members in any order and whitespace
  anywhere, is parsed to the same value and loads the same database.
-/

import MyTeams.Storage.RoundTrip

namespace MyTeams

open SortedMap

instance (gap : Bytes) : Decidable (Blank gap) := List.decidableBAll _ gap

namespace Json

/-! ### What a text stands for -/

mutual

/-- Integers of magnitude at most `2 ^ 53`, and objects with distinct keys. -/
def Regular : Json → Prop
  | null => True
  | bool _ => True
  | int value => |value| ≤ 2 ^ 53
  | str _ => True
  | arr elements => RegularElements elements
  | obj members => (members.map Prod.fst).Nodup ∧ RegularMembers members

def RegularElements : List Json → Prop
  | [] => True
  | element :: rest => Regular element ∧ RegularElements rest

def RegularMembers : List (Bytes × Json) → Prop
  | [] => True
  | (_, member) :: rest => Regular member ∧ RegularMembers rest

end

section Meaning

variable (fp : FloatingPoint)

mutual

/-- `value` is what the text stands for: an object is a map, a number is the integer itself. -/
def Denotes : Json → JsonVal fp.Double → Prop
  | null, value => value = .null
  | bool bVal, value => value = .bool bVal
  | int nVal, value => value = .num (fp.ofInt nVal) ∧ fp.toTime (fp.ofInt nVal) = nVal
  | str sVal, value => value = .str sVal
  | arr elements, value => ∃ arrVal, value = .arr arrVal ∧ DenotesElements elements arrVal
  | obj members, value => ∃ objVal : SortedMap Bytes (JsonVal fp.Double), value = .obj objVal.entries ∧
      (∀ key, (objVal.find? key).isSome = true → key ∈ members.map Prod.fst) ∧
      DenotesMembers members objVal

/-- The elements one by one. -/
def DenotesElements : List Json → List (JsonVal fp.Double) → Prop
  | [], arrVal => arrVal = []
  | element :: rest, arrVal => ∃ first later, arrVal = first :: later ∧ Denotes element first ∧
      DenotesElements rest later

/-- Every member is bound to its key. -/
def DenotesMembers : List (Bytes × Json) → SortedMap Bytes (JsonVal fp.Double) → Prop
  | [], _ => True
  | (key, member) :: rest, objVal => (∃ value, objVal.find? key = some value ∧ Denotes member value) ∧
      DenotesMembers rest objVal

end

/-! ### The members of an object -/

/-- The members stored into a map one after the other. -/
def storeMap (built : SortedMap Bytes (JsonVal fp.Double)) :
    List (Bytes × Json) → SortedMap Bytes (JsonVal fp.Double)
  | [] => built
  | (key, member) :: rest => storeMap (built.insert key (member.val fp)) rest

/-- The loop of the parser builds this map. -/
theorem entries_storeMap (built : SortedMap Bytes (JsonVal fp.Double)) (members : List (Bytes × Json)) :
    (storeMap fp built members).entries = store fp built.entries members := by
  induction members generalizing built with
  | nil => rw [storeMap, store]
  | cons head rest ih =>
    rw [storeMap, store, ih]
    rfl

theorem find?_storeMap_of_not_mem {members : List (Bytes × Json)} {key : Bytes}
    (missing : key ∉ members.map Prod.fst) (built : SortedMap Bytes (JsonVal fp.Double)) :
    (storeMap fp built members).find? key = built.find? key := by
  induction members generalizing built with
  | nil => rw [storeMap]
  | cons head rest ih =>
    rw [List.map_cons, List.mem_cons, not_or] at missing
    rw [storeMap, ih missing.2, find?_insert, if_neg missing.1]

/-- A key that occurs is bound to one of its members. -/
theorem find?_storeMap_of_mem {members : List (Bytes × Json)} {key : Bytes}
    (occurs : key ∈ members.map Prod.fst) (built : SortedMap Bytes (JsonVal fp.Double)) :
    ∃ member, (key, member) ∈ members ∧
      (storeMap fp built members).find? key = some (member.val fp) := by
  induction members generalizing built with
  | nil => cases occurs
  | cons head rest ih =>
    obtain ⟨first, member⟩ := head
    rw [storeMap]
    by_cases later : key ∈ rest.map Prod.fst
    · obtain ⟨last, inside, bound⟩ := ih later (built.insert first (member.val fp))
      exact ⟨last, List.mem_cons_of_mem _ inside, bound⟩
    · obtain rfl : key = first := (List.mem_cons.mp occurs).resolve_right later
      refine ⟨member, List.mem_cons_self, ?_⟩
      rw [find?_storeMap_of_not_mem fp later, find?_insert, if_pos rfl]

/-- With distinct keys, every member is bound to its key. -/
theorem find?_storeMap {members : List (Bytes × Json)} (distinct : (members.map Prod.fst).Nodup)
    {key : Bytes} {member : Json} (inside : (key, member) ∈ members) :
    (storeMap fp empty members).find? key = some (member.val fp) := by
  obtain ⟨other, there, bound⟩ := find?_storeMap_of_mem fp (List.mem_map_of_mem inside) empty
  have same := List.inj_on_of_nodup_map distinct there inside rfl
  cases same
  exact bound

/-! ### One value -/

mutual

/-- **A regular text stands for what the parser builds.** -/
theorem denotes_val : (json : Json) → json.Regular → json.Denotes fp (json.val fp)
  | null, _ => by rw [Denotes, val]
  | bool _, _ => by rw [Denotes, val]
  | int value, exact => by
      rw [Denotes, val]
      rw [Regular] at exact
      exact ⟨rfl, fp.toTime_ofInt value exact⟩
  | str _, _ => by rw [Denotes, val]
  | arr elements, regular => by
      rw [Denotes, val]
      rw [Regular] at regular
      exact ⟨_, rfl, denotes_vals elements regular⟩
  | obj members, regular => by
      rw [Denotes, val]
      rw [Regular] at regular
      refine ⟨storeMap fp empty members, ?_, fun key present => ?_, ?_⟩
      · rw [entries_storeMap]
        rfl
      · by_contra missing
        rw [find?_storeMap_of_not_mem fp missing] at present
        cases present
      · exact denotes_members members regular.2 _ fun entry inside => find?_storeMap fp regular.1 inside

theorem denotes_vals : (elements : List Json) → RegularElements elements →
    DenotesElements fp elements (vals fp elements)
  | [], _ => by rw [DenotesElements, vals]
  | element :: rest, regular => by
      rw [DenotesElements, vals]
      rw [RegularElements] at regular
      exact ⟨_, _, rfl, denotes_val element regular.1, denotes_vals rest regular.2⟩

theorem denotes_members : (members : List (Bytes × Json)) → RegularMembers members →
    (objVal : SortedMap Bytes (JsonVal fp.Double)) →
    (∀ entry ∈ members, objVal.find? entry.1 = some (entry.2.val fp)) → DenotesMembers fp members objVal
  | [], _, _, _ => by
      rw [DenotesMembers]
      trivial
  | (_, member) :: rest, regular, objVal, bound => by
      rw [DenotesMembers]
      rw [RegularMembers] at regular
      obtain ⟨first, later⟩ := List.forall_mem_cons.mp bound
      exact ⟨⟨_, first, denotes_val member regular.1⟩, denotes_members rest regular.2 objVal later⟩

end

mutual

/-- **A text stands for nothing but what the parser builds.** -/
theorem val_of_denotes : (json : Json) → {value : JsonVal fp.Double} → json.Denotes fp value →
    json.val fp = value
  | null, _, denotes => by
      rw [Denotes] at denotes
      rw [denotes, val]
  | bool _, _, denotes => by
      rw [Denotes] at denotes
      rw [denotes, val]
  | int _, _, denotes => by
      rw [Denotes] at denotes
      rw [denotes.1, val]
  | str _, _, denotes => by
      rw [Denotes] at denotes
      rw [denotes, val]
  | arr elements, _, denotes => by
      rw [Denotes] at denotes
      obtain ⟨arrVal, rfl, each⟩ := denotes
      rw [val, vals_of_denotes elements each]
  | obj members, _, denotes => by
      rw [Denotes] at denotes
      obtain ⟨objVal, rfl, only, each⟩ := denotes
      have bound := members_of_denotes members each
      -- the two maps have the same lookups: a key that does not occur is bound in neither
      have same : storeMap fp empty members = objVal := ext_find? fun key => by
        by_cases occurs : key ∈ members.map Prod.fst
        · obtain ⟨member, inside, stored⟩ := find?_storeMap_of_mem fp occurs empty
          exact stored.trans (bound _ inside).symm
        · rw [find?_storeMap_of_not_mem fp occurs, find?_empty, eq_comm, ← Option.not_isSome_iff_eq_none]
          exact fun present => occurs (only key present)
      rw [val, ← same, entries_storeMap]
      rfl

theorem vals_of_denotes : (elements : List Json) → {arrVal : List (JsonVal fp.Double)} →
    DenotesElements fp elements arrVal → vals fp elements = arrVal
  | [], _, each => by
      rw [DenotesElements] at each
      rw [each, vals]
  | element :: rest, _, each => by
      rw [DenotesElements] at each
      obtain ⟨first, later, rfl, here, behind⟩ := each
      rw [vals, val_of_denotes element here, vals_of_denotes rest behind]

theorem members_of_denotes : (members : List (Bytes × Json)) →
    {objVal : SortedMap Bytes (JsonVal fp.Double)} → DenotesMembers fp members objVal →
    ∀ entry ∈ members, objVal.find? entry.1 = some (entry.2.val fp)
  | [], _, _ => List.forall_mem_nil _
  | (key, member) :: rest, objVal, each => by
      rw [DenotesMembers] at each
      obtain ⟨⟨value, bound, here⟩, behind⟩ := each
      refine List.forall_mem_cons.mpr ⟨?_, members_of_denotes rest behind⟩
      rw [bound, val_of_denotes member here]

end

end Meaning

/-! ### Layouts -/

/-- A rendering with whitespace around it; it may have whitespace between any two of its tokens. -/
def Layout (json : Json) (text : Bytes) : Prop :=
  ∃ before token after, Blank before ∧ Token json token ∧ Blank after ∧ text = before ++ token ++ after

theorem layout_compact (json : Json) : json.Layout json.compact :=
  ⟨[], json.compact, [], blank_nil, token_compact json, blank_nil, by simp⟩

/-- **The parser reads every layout.** -/
theorem parse_layout (fp : FloatingPoint) {json : Json} {text : Bytes} (layout : json.Layout text)
    {fuel : Nat} (enough : 2 * text.length ≤ fuel) :
    JsonParser.parse fp text fuel = some (json.val fp) := by
  obtain ⟨before, token, after, blank, renders, blank', rfl⟩ := layout
  have stops : ∀ byte, after.head? = some byte → continuesNumber byte = false := fun byte head =>
    JsonParser.continuesNumber_of_isSpace (blank' byte (List.mem_of_mem_head? head))
  have whole : (before ++ token ++ after).drop 0 = before ++ (token ++ after) := by
    rw [List.drop_zero, List.append_assoc]
  simp only [List.length_append] at enough
  rw [JsonParser.parse, JsonParser.parseValue_token fp renders fuel 0 before after blank stops whole
    (by omega)]
  rfl

end Json

/-- **Every text of a value is parsed to this value**, whatever the order of the members and wherever
whitespace stands; so a save file loads the same database as the compact text. -/
theorem layout_independence (fp : FloatingPoint) (json : Json) (regular : json.Regular) :
    ∃ value, json.Denotes fp value ∧
      ∀ written : Json, written.Denotes fp value → ∀ text, written.Layout text →
        ∀ fuel, 2 * text.length ≤ fuel →
          JsonParser.parse fp text fuel = some value ∧
          ∀ compactFuel, 2 * json.compact.length ≤ compactFuel → ∀ database,
            SaveManager.load fp fuel text database
              = SaveManager.load fp compactFuel json.compact database := by
  refine ⟨json.val fp, json.denotes_val fp regular, fun written denotes text layout fuel enough => ?_⟩
  have parsed : JsonParser.parse fp text fuel = some (json.val fp) := by
    rw [Json.parse_layout fp layout enough, written.val_of_denotes fp denotes]
  refine ⟨parsed, fun compactFuel sufficient database => ?_⟩
  rw [SaveManager.load, SaveManager.load, parsed, Json.parse_layout fp json.layout_compact sufficient]

/-- An object with two members: its text with the members the other way round and blanks in it. -/
theorem layout_independence_sample :
    ∃ value, (Json.obj [(ascii "a", .arr [.int 1, .null]), (ascii "b", .bool true)]).Denotes integerDouble
        value ∧
      JsonParser.parse integerDouble (ascii "\t\x7b \"b\" : true ,\r\n\"a\":[ 1, null ] \x7d\n") 72
        = some value := by
  obtain ⟨value, denotes, every⟩ := layout_independence integerDouble
    (.obj [(ascii "a", .arr [.int 1, .null]), (ascii "b", .bool true)]) (by
      simp only [Json.Regular, Json.RegularMembers, Json.RegularElements]
      decide)
  have turned : (Json.obj [(ascii "b", .bool true), (ascii "a", .arr [.int 1, .null])]).Denotes
      integerDouble value := by
    rw [← Json.val_of_denotes integerDouble _ denotes]
    have regular : (Json.obj [(ascii "b", .bool true), (ascii "a", .arr [.int 1, .null])]).Regular := by
      simp only [Json.Regular, Json.RegularMembers, Json.RegularElements]
      decide
    exact Json.denotes_val integerDouble _ regular
  have none : Blank [] := Json.blank_nil
  have blank : Blank [32] := by decide
  have lineEnd : Blank [13, 10] := by decide
  have list := Token.arr blank (Elements.more (Token.int 1) none blank (Elements.last Token.null blank))
  have last : Members [(ascii "a", .arr [.int 1, .null])] _ := Members.last none none list blank
  have members : Members [(ascii "b", .bool true), (ascii "a", .arr [.int 1, .null])] _ :=
    Members.more blank blank Token.true blank lineEnd last
  have text := Token.obj blank members
  have layout : (Json.obj [(ascii "b", .bool true), (ascii "a", .arr [.int 1, .null])]).Layout
      (ascii "\t\x7b \"b\" : true ,\r\n\"a\":[ 1, null ] \x7d\n") :=
    ⟨[9], _, [10], by decide, text, by decide, by decide⟩
  exact ⟨value, denotes, (every _ turned _ layout 72 (by decide)).1⟩

end MyTeams
