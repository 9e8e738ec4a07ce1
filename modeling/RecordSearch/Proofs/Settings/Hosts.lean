import RecordSearch.Proofs.Json.Limits
import RecordSearch.Proofs.Json.Writing
import RecordSearch.Proofs.Settings.Checking

namespace RecordSearch

/-!
# Hosts in a text

The hosts of a connection may be given as a list of texts, or by one text: the JSON text of such a
list, or the name of a single host.

* `hostsFrom`: the hosts of settings for which nothing else is given;
* `hostsFrom_write`: hosts that are written as a list are the hosts that come out;
* `hostsFrom_plain`: a text that starts with no bracket is the name of a host.

`hostsFrom_text` says that a text which is the JSON text of a list gives its members, however it is
written, and that any other text is the name of a host.
-/

namespace ConnectionSettings

section

variable [Platform]

/-- The hosts of settings for which hosts are given, and nothing else. -/
def hostsFrom (given : Value) : Except Error (Checked (List String)) :=
  (fun checked => hosts <$> checked) <$> check [("hosts", given)]

/-- The hosts do not depend on the other settings, which are left at their defaults. -/
theorem hostsFrom_eq (given : Value) : hostsFrom given = checkHosts (some given) := by
  have hgiven : Document.get? [("hosts", given)] "hosts" = some given := rfl
  rw [hostsFrom, check, hgiven]
  cases checkHosts (some given) with
  | error problem => rfl
  | ok checked =>
    cases checked with
    | valid hosts => rfl
    | invalid faults => rfl

/-- Members that are texts are the hosts. -/
theorem checkHosts_of_members {given : Value} {hosts : List String}
    (h : hostMembers given = .ok (.valid (hosts.map .str))) :
    checkHosts (some given) = .ok (.valid hosts) := by
  rw [checkHosts, h]
  change Except.ok (Checked.inside _ (Checked.all Checked.text (hosts.map Value.str))) = _
  rw [Checked.all_text_map_str]
  rfl

/-- A list of texts gives them as hosts. -/
theorem hostsFrom_list (hosts : List String) :
    hostsFrom (.list (hosts.map .str)) = .ok (.valid hosts) := by
  rw [hostsFrom_eq]
  exact checkHosts_of_members rfl

/-- The text of a list of texts gives them as hosts. -/
theorem hostsFrom_of_isText {text : String} {hosts : List String}
    (h : Json.IsText Platform.hostsDepth text.toList (.list (hosts.map .str))) :
    hostsFrom (.str text) = .ok (.valid hosts) := by
  have hread : Json.read Platform.hostsDepth text = .ok (.list (hosts.map .str)) :=
    Json.readChars_eq_ok_iff.2 h
  have hhost : hostOf ∘ Value.str = Value.str := rfl
  rw [hostsFrom_eq]
  refine checkHosts_of_members ?_
  rw [hostMembers, hread, hostsOfText, List.map_map, hhost]

/-- A text of no list is the name of a host, unless it is empty. -/
theorem hostsFrom_of_not_isText {text : String}
    (hlimits : Json.IsWithinLimits Platform.hostsDepth text)
    (h : ∀ items, ¬ Json.IsText Platform.hostsDepth text.toList (.list items)) :
    hostsFrom (.str text) = .ok (.valid (if text = "" then [] else [text])) := by
  have hlist : ∀ items, Json.read Platform.hostsDepth text ≠ .ok (.list items) := fun items hread =>
    h items (Json.readChars_eq_ok_iff.1 hread)
  -- What the text holds does not count unless it is a list, and no other problem is left.
  have hname : hostsOfText (.str text) (Json.read Platform.hostsDepth text)
      = .ok (.valid (if (Value.str text).isTruthy then [.str text] else [])) := by
    cases hread : Json.read Platform.hostsDepth text with
    | ok v =>
      cases v with
      | list items => exact absurd hread (hlist items)
      | _ => rfl
    | error problem =>
      obtain ⟨fault, left, rfl⟩ := hlimits problem hread
      rfl
  rw [hostsFrom_eq]
  refine checkHosts_of_members ?_
  rw [hostMembers, hname]
  by_cases hempty : text = ""
  · subst hempty
    rfl
  · have htruthy : (Value.str text).isTruthy = true := by
      simpa [Value.isTruthy] using hempty
    rw [if_pos htruthy, if_neg hempty]
    rfl

/-- Hosts that are written as a list are the hosts of the written text. -/
theorem hostsFrom_write (hosts : List String) :
    hostsFrom (.str (Json.write (.list (hosts.map .str)))) = .ok (.valid hosts) := by
  obtain ⟨depth, hdepth⟩ := Nat.exists_eq_add_of_lt Platform.hostsDepth_pos
  refine hostsFrom_of_isText ?_
  rw [hdepth]
  exact Json.isText_write_texts _ hosts

/-- A text of usual length that does not start with a bracket, after spaces, is the name of a
    host. -/
theorem hostsFrom_plain {text : String} (hne : text ≠ "")
    (hstart : (Json.skipSpace text.toList).head? ≠ some '[')
    (hlevels : text.toList.countP Json.opensLevel ≤ Platform.hostsDepth)
    (hdigits : text.toList.countP Char.isDigit ≤ Decimal.digitLimit) :
    hostsFrom (.str text) = .ok (.valid [text]) := by
  rw [hostsFrom_of_not_isText (Json.isWithinLimits_of_counts hlevels hdigits), if_neg hne]
  intro items htext
  obtain ⟨spaces, rest, hspaces, heq⟩ := htext.exists_bracket
  rw [heq, Json.skipSpace_append_sign hspaces (by decide)] at hstart
  exact hstart rfl

/-- **Hosts in a text.** A JSON text of a list of texts, with any escapes and any spaces, gives the
    hosts that the list itself gives: its members. A text that is not empty and is no JSON text of
    a list is the name of the one host, as it stands, where it does not go beyond a limit of the
    reader. The empty text gives no hosts. -/
theorem hostsFrom_text (text : String) :
    (∀ hosts : List String,
        Json.IsText Platform.hostsDepth text.toList (.list (hosts.map .str)) →
        hostsFrom (.str text) = .ok (.valid hosts)
          ∧ hostsFrom (.list (hosts.map .str)) = .ok (.valid hosts))
      ∧ (text ≠ "" → Json.IsWithinLimits Platform.hostsDepth text →
        (∀ items, ¬ Json.IsText Platform.hostsDepth text.toList (.list items)) →
        hostsFrom (.str text) = .ok (.valid [text]))
      ∧ hostsFrom (.str "") = .ok (.valid []) := by
  refine ⟨?_, ?_, rfl⟩
  · intro hosts htext
    exact ⟨hostsFrom_of_isText htext, hostsFrom_list hosts⟩
  · intro hne hlimits hnone
    rw [hostsFrom_of_not_isText hlimits hnone, if_neg hne]

end

attribute [local instance] Platform.plain

/-- Two hosts in a text with escapes, one of them a pair of surrogates; and a text that goes on
    after a list, so that it is a name. -/
theorem hostsFrom_escaped :
    hostsFrom (.str "[ \"http:\\/\\/a\" ,\n\"\\uD83D\\uDE00\"]") = .ok (.valid ["http://a", "😀"])
      ∧ hostsFrom (.str "[\"a\"]:9200") = .ok (.valid ["[\"a\"]:9200"]) := by
  obtain ⟨hlist, -, -⟩ := hostsFrom_text "[ \"http:\\/\\/a\" ,\n\"\\uD83D\\uDE00\"]"
  obtain ⟨-, hname, -⟩ := hostsFrom_text "[\"a\"]:9200"
  have hdepth : Platform.hostsDepth = 987 + 1 := rfl
  have hnone : Json.IsSpaces [] := by simp [Json.IsSpaces]
  have hspace : Json.IsSpaces [' '] := by simp [Json.IsSpaces, Json.spaceSigns]
  have hbreak : Json.IsSpaces ['\n'] := by simp [Json.IsSpaces, Json.spaceSigns]
  have hslashes : Json.IsLiteral "http:\\/\\/a".toList (Text.codes "http://a") :=
    Json.isLiteral_of_readString rfl
  have hpair : Json.IsLiteral "\\uD83D\\uDE00".toList (Text.codes "😀") :=
    Json.isLiteral_of_readString rfl
  have hletter : Json.IsLiteral "a".toList (Text.codes "a") := Json.isLiteral_of_readString rfl
  have hdenotes : Json.Denotes (987 + 1)
      "[ \"http:\\/\\/a\" ,\n\"\\uD83D\\uDE00\"]".toList
      (.value (.list [.ofCodes (Text.codes "http://a"), .ofCodes (Text.codes "😀")])) :=
    .list hspace (.item (.string hslashes) hspace hbreak (.lastItem (.string hpair) hnone))
  rw [Json.ofCodes_codes, Json.ofCodes_codes, ← hdepth] at hdenotes
  have htext : Json.IsText Platform.hostsDepth
      "[ \"http:\\/\\/a\" ,\n\"\\uD83D\\uDE00\"]".toList
      (.list (["http://a", "😀"].map .str)) :=
    ⟨[], _, [], hnone, hdenotes, hnone, rfl⟩
  have hitems : Json.Denotes 987 "\"a\"]".toList (.items [.ofCodes (Text.codes "a")]) :=
    .lastItem (.string hletter) hnone
  have hextra := Json.readChars_list_append hnone hitems
    (show Json.skipSpace ":9200".toList ≠ [] by decide)
  -- A text goes on after its list, and is no text of a list for that.
  have hread : Json.read Platform.hostsDepth "[\"a\"]:9200"
      = .error (.malformed .extraData 5) := by
    rw [hdepth]
    exact hextra
  refine ⟨(hlist _ htext).1, hname (by decide) ?_ ?_⟩
  · intro problem hproblem
    rw [hread] at hproblem
    cases hproblem
    exact ⟨_, _, rfl⟩
  · intro items hitems
    rw [← Json.readChars_eq_ok_iff] at hitems
    cases hread.symm.trans hitems

end ConnectionSettings

end RecordSearch
