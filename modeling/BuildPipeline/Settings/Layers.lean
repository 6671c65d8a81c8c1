import BuildPipeline.Settings.Host

set_option autoImplicit false

/-!
Mappings laid over one another: deeply, member by member, or flat, where null sets nothing that a
lower layer has set.
-/

namespace BuildPipeline.Settings

mutual

-- Two mappings merge; anything else is replaced. So is a mapping met again inside itself, which is
-- written `.enclosing .map` and not unfolded: only a document with an anchor inside its own node has
-- one, and merging would follow that cycle as deep as the other side has mappings.
def mergeValue : Option Value → Value → Value
  | some (.map base), .map members => .map (mergeMembers base members)
  | _, v => v

def mergeMembers (base : Mapping) : List (Value × Value) → Mapping
  | [] => base
  | (k, v) :: rest => mergeMembers (base.insert k (mergeValue (base.get? k) v)) rest

end

def merge (base overlay : Mapping) : Mapping :=
  mergeMembers base overlay

def setMember (resolved : Mapping) (key value : Value) : Mapping :=
  if value.isNull && resolved.contains key then resolved
  else resolved.insert (.str key.text) value

def layOver (resolved : Mapping) (layer : Option Mapping) : Mapping :=
  (layer.getD []).foldl (fun acc member => setMember acc member.1 member.2) resolved

def resolveLayers (layers : List (Option Mapping)) : Mapping :=
  layers.foldl layOver []

def layerMembers (layers : List (Option Mapping)) : List (Value × Value) :=
  layers.flatMap (·.getD [])

def resolve (layers : List (Option Mapping)) : Except ValueFault Mapping :=
  if (layerMembers layers).any (·.1.isTooLong) then .error .tooLong else .ok (resolveLayers layers)

end BuildPipeline.Settings
