import Embargo.Collection.Table
import Embargo.Registry

namespace Embargo

structure Aliases where
  table : Table (Subject × String) String
deriving DecidableEq, Inhabited

namespace Aliases

def empty : Aliases :=
  ⟨∅⟩

instance : EmptyCollection Aliases := ⟨empty⟩

def insert (aliases : Aliases) (subject : Subject) (other current : String) : Aliases :=
  ⟨aliases.table.insert (subject, canonicalName other) (canonicalName current)⟩

def insertAll (aliases : Aliases) (subject : Subject) (pairs : List (String × String)) : Aliases :=
  pairs.foldl (fun t p => t.insert subject p.1 p.2) aliases

def current? (aliases : Aliases) (subject : Subject) (name : String) : Option String :=
  aliases.table.get? (subject, canonicalName name)

def resolve (aliases : Aliases) (subject : Subject) (name : String) : String :=
  (aliases.current? subject name).getD (canonicalName name)

def formerEnchantments : List (String × String) :=
  [("protection_environmental", "protection"), ("protection_fire", "fire_protection"),
    ("protection_fall", "feather_falling"), ("protection_explosions", "blast_protection"),
    ("protection_projectile", "projectile_protection"), ("oxygen", "respiration"),
    ("water_worker", "aqua_affinity"), ("damage_all", "sharpness"), ("damage_undead", "smite"),
    ("damage_arthropods", "bane_of_arthropods"), ("loot_bonus_mobs", "looting"),
    ("dig_speed", "efficiency"), ("durability", "unbreaking"), ("loot_bonus_blocks", "fortune"),
    ("arrow_damage", "power"), ("arrow_knockback", "punch"), ("arrow_fire", "flame"),
    ("arrow_infinite", "infinity"), ("luck", "luck_of_the_sea"), ("sweeping", "sweeping_edge")]

def formerPotions : List (String × String) :=
  [("swiftness", "speed"), ("slow", "slowness"), ("fast_digging", "haste"),
    ("slow_digging", "mining_fatigue"), ("increase_damage", "strength"),
    ("heal", "instant_health"), ("healing", "instant_health"), ("harm", "instant_damage"),
    ("harming", "instant_damage"), ("jump", "jump_boost"), ("leaping", "jump_boost"),
    ("confusion", "nausea"), ("damage_resistance", "resistance"), ("regen", "regeneration")]

def formerMaterials : List (String × String) :=
  [("grass_path", "dirt_path"), ("sign", "oak_sign"), ("wall_sign", "oak_wall_sign"),
    ("scute", "turtle_scute")]

def stock : Aliases :=
  (((∅ : Aliases).insertAll (.key .enchantment) formerEnchantments).insertAll (.key .potion)
    formerPotions).insertAll (.key .material) formerMaterials

end Aliases

end Embargo
