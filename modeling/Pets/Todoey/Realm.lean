import Mathlib.Algebra.Order.Ring.Rat
import Pets.Library.LiveView

set_option autoImplicit false

namespace Pets.Todoey

abbrev ObjectId := ℕ

abbrev Date := ℚ

structure Item where
  id : ObjectId
  title : Option String
  done : Bool
  dateCreated : Option Date
deriving DecidableEq

structure Category where
  id : ObjectId
  title : Option String
  dateCreated : Option Date
  items : List ObjectId
deriving DecidableEq

structure Realm where
  categories : List Category
  items : List Item
  nextId : ObjectId
deriving DecidableEq

-- A write whose commit fails is rolled back; a block that throws an Objective-C
-- exception ends the process.
def write (realm : Realm) (commits : Bool) (block : Realm → Option Realm) : Option Realm :=
  (block realm).map fun changed => if commits then changed else realm

def addCategory (realm : Realm) (title : String) (dateCreated : Date) : Realm :=
  { realm with
    categories := realm.categories ++ [⟨realm.nextId, some title, some dateCreated, []⟩]
    nextId := realm.nextId + 1 }

def Category.append (category : Category) (target item : ObjectId) : Category :=
  if category.id = target then { category with items := category.items ++ [item] } else category

-- Appending an unmanaged item to a managed list also adds the item to the realm.
def appendItem (realm : Realm) (category : ObjectId) (title : String) (dateCreated : Date) : Option Realm :=
  if category ∈ realm.categories.map Category.id then
    some
      { categories := realm.categories.map fun stored => stored.append category realm.nextId
        items := realm.items ++ [⟨realm.nextId, some title, false, some dateCreated⟩]
        nextId := realm.nextId + 1 }
  else none

def setDone (realm : Realm) (item : ObjectId) (done : Bool) : Realm :=
  { realm with items := realm.items.map fun stored => if stored.id = item then { stored with done } else stored }

def Category.without (category : Category) (deleted : List ObjectId) : Category :=
  { category with items := category.items.filter fun item => item ∉ deleted }

def deleteItems (realm : Realm) (deleted : List ObjectId) : Realm :=
  { realm with
    categories := realm.categories.map fun category => category.without deleted
    items := realm.items.filter fun item => item.id ∉ deleted }

def deleteCategory (realm : Realm) (category : ObjectId) : Realm :=
  { realm with categories := realm.categories.filter fun stored => stored.id ≠ category }

def listItems (realm : Realm) (category : ObjectId) : List Item :=
  match realm.categories.find? fun stored => stored.id = category with
  | some stored => stored.items.filterMap fun id => realm.items.find? fun item => item.id = id
  | none => []

end Pets.Todoey
