namespace GroupSearch

/-- A user account. Inactive accounts are never found by reference. -/
structure Account where
  id : Int
  username : Option String
  fullName : Option String
  email : Option String
  active : Bool
  deriving DecidableEq, Repr

structure Reference where
  uuid : String
  name : String
  deriving DecidableEq, Repr

structure Group where
  uuid : String
  name : String
  description : Option String
  ownerUuid : Option String
  visibleToAll : Bool
  members : List Int
  subgroups : List String
  deriving DecidableEq, Repr

def Group.reference (g : Group) : Reference := ⟨g.uuid, g.name⟩

structure Directory where
  accounts : List Account
  groups : List Group
  deriving DecidableEq, Repr

end GroupSearch
