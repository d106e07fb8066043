import ControlPlane.Database

/-!
# A sample workspace

A small database on which results are tried out: a root organization, a
reseller with a server, a contract and a metered binding, and a member of the
reseller who may only look.
-/

namespace ControlPlane

open ReadCommitted

/-- A database without rows keeps every constraint. -/
theorem Integrity.empty : Integrity {} where
  keys table := by cases table <;> exact List.nodup_nil
  entries table entry first second := by
    rintro ⟨row, member, _⟩
    cases table <;> exact absurd member List.not_mem_nil
  valid table row member := by cases table <;> exact absurd member List.not_mem_nil
  parents table row member := by cases table <;> exact absurd member List.not_mem_nil

namespace Sample

def env : Env :=
  { rootTelegramId := some 1, telegramBotToken := "token"
    initialSetupToken := "a token of at least 32 characters" }

/-- An outside world without failures, where the clock stands still. -/
def answers : Answers Database
  | .uid, count => ⟨String.ofList (List.replicate 36 (Char.ofNat (97 + count))), by simp⟩
  | .now, _ => 0
  | .tokenHex, _ => "00c0ffee"
  | .resolveSecret _, _ => true
  | .panel _ .nodes, _ => .ok ()
  | .panel _ (.nodeStatus _), _ => .ok ()
  | .panel _ (.setNodeEnabled _ _), _ => .ok ()
  | .panel _ (.reconnectNode _), _ => .ok ()
  | .panel _ (.resetNode _), _ => .ok ()
  | .panel _ (.modifyAdmin _ _), _ => .ok ()
  | .panel _ .admins, _ => .ok []
  | .panel _ (.user _), _ => .ok .null
  | .panel _ (.users _ _ _), _ => .ok ()
  | .panel _ (.setUserEnabled _ _), _ => .ok ()
  | .panel _ (.resetUserData _), _ => .ok ()
  | .sendMessage _, _ => true
  | .answerCallback, _ => true
  | .getState _, _ => none
  | .setState _ _, _ => ()
  | .clearState _, _ => ()

/-- The same outside world at a later time: the identifiers that come up are new. -/
def answersFrom (start : Nat) : Answers Database :=
  fun query count => answers query (start + count)

/-- The rows of the workspace. -/
def rows : List Database.Write :=
  [.insert .organizations ⟨"root", none, "Root", "root", .active, 0, 5⟩,
    .insert .organizations ⟨"shop", some "root", "Shop", "shop", .active, 1000, 5⟩,
    .insert .closures ⟨"root", "root", 0⟩,
    .insert .closures ⟨"shop", "shop", 0⟩,
    .insert .closures ⟨"root", "shop", 1⟩,
    .insert .contracts ⟨"contract", "root", "shop", 100, .active⟩,
    .insert .panels
      { id := "panel", name := "Panel", baseUrl := "https://panel", vendor := "pasarguard"
        apiKeyRef := none, ownerUserRef := none, ownerPassRef := none, usageCoefficient := 10000
        verifyTls := true, status := .active, saleable := true },
    .insert .panelOwners ⟨"panel", "shop"⟩,
    .insert .bindings ⟨"binding", "shop", "panel", 7, "shop", .active⟩,
    .insert .actors ⟨"member", 10, "Member", .active⟩,
    .insert .memberships ⟨"membership", "shop", "member", .viewer, .active, 0⟩]

def workspace : Db := replay (S := Database) rows {}

theorem integrity : Integrity workspace :=
  Layout.Integrity.replay Integrity.empty (by decide)

end Sample

end ControlPlane
