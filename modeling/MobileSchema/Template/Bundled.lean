import MobileSchema.Catalog

/-!
# The bundled templates

The templates of the two languages.  Both write a header and then a class for each model, with a
line for each property.
-/

namespace MobileSchema.Template

/-- A line of a template, in fragments. -/
abbrev Line := List String

/-- A statement tag. -/
def statementTag (words : String) : Line := ["\x7b% ", words, " %\x7d"]

/-- An output tag. -/
def outputTag (expression : String) : Line := ["\x7b\x7b ", expression, " \x7d\x7d"]

/-- The text of lines, each with its end. -/
def ofLines (lines : List Line) : List Char :=
  lines.flatMap fun line => line.flatMap String.toList ++ ['\n']

/-- The lines of the template for Swift. -/
def swiftLines : List Line := [
  ["//"],
  ["// Generated by realmgen. Do not edit."],
  statementTag "if schema.module_name",
  ["// Module: "] ++ outputTag "schema.module_name",
  statementTag "endif",
  ["//"],
  [""],
  ["import Foundation"],
  ["import RealmSwift"],
  statementTag "for model in schema.models",
  [""],
  ["class "] ++ outputTag "model.name" ++ [": Object \x7b"],
  statementTag "for property in model.properties",
  ["    "] ++ outputTag "property.rendered_declaration().ios",
  statementTag "endfor",
  statementTag "if model.primary_key",
  [""],
  ["    override static func primaryKey() -> String? \x7b"],
  ["        return \""] ++ outputTag "model.primary_key.name" ++ ["\""],
  ["    \x7d"],
  statementTag "endif",
  statementTag "if model.has_indexed_properties",
  [""],
  ["    override static func indexedProperties() -> [String] \x7b"],
  ["        return ["] ++ statementTag "for pair in model.indexed_property_and_comma" ++ ["\""]
    ++ outputTag "pair.data" ++ ["\""] ++ statementTag "if pair.comma" ++ outputTag "pair.comma"
    ++ [" "] ++ statementTag "endif" ++ statementTag "endfor" ++ ["]"],
  ["    \x7d"],
  statementTag "endif",
  ["\x7d"],
  statementTag "endfor"]

/-- The lines of the template for Kotlin. -/
def kotlinLines : List Line := [
  ["// Generated by realmgen. Do not edit."],
  statementTag "if schema.package_name",
  ["package "] ++ outputTag "schema.package_name",
  statementTag "endif",
  [""],
  statementTag "if schema.has_list_relations",
  ["import io.realm.RealmList"],
  statementTag "endif",
  ["import io.realm.RealmObject"],
  statementTag "if schema.has_linking_objects",
  ["import io.realm.RealmResults"],
  statementTag "endif",
  statementTag "if schema.has_indexed_properties",
  ["import io.realm.annotations.Index"],
  statementTag "endif",
  statementTag "if schema.has_linking_objects",
  ["import io.realm.annotations.LinkingObjects"],
  statementTag "endif",
  statementTag "if schema.has_primary_keys",
  ["import io.realm.annotations.PrimaryKey"],
  statementTag "endif",
  statementTag "if schema.uses_kind(field_kind.DATE)",
  ["import java.util.Date"],
  statementTag "endif",
  statementTag "for model in schema.models",
  [""],
  ["open class "] ++ outputTag "model.name" ++ [" : RealmObject() \x7b"],
  statementTag "for property in model.properties",
  ["    "] ++ outputTag "\"@Index \" if property.indexed else \"\""
    ++ outputTag "property.rendered_declaration().android",
  statementTag "endfor",
  ["\x7d"],
  statementTag "endfor"]

/-- The template of a language. -/
def bundledSource : Language → List Char
  | .swift => ofLines swiftLines
  | .kotlin => ofLines kotlinLines

end MobileSchema.Template
