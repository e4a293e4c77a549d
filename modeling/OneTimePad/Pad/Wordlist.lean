/-!
# Mnemonic words

The 256 words of a spoken checksum, one for each value of an octet.  They are
distinct and in alphabetical order, and they never change within a version,
since both sides of a conversation have to speak the same words.
-/

namespace OneTimePad.Mnemonic

/-- The version of the list; it changes with any word. -/
def listVersion : Nat := 1

/-- The words in alphabetical order. -/
def words : List String :=
  ["acid", "acorn", "actor", "adobe", "agent", "alarm", "album", "alien", "alley", "amber",
    "angle", "ankle", "apple", "apron", "arena", "armor", "arrow", "aspen", "atlas", "attic",
    "audio", "autumn", "bacon", "badge", "bagel", "baker", "bamboo", "banjo", "barley", "basil",
    "beach", "beacon", "berry", "bison", "blade", "blaze", "blend", "bloom", "bonus", "brave",
    "bread", "brick", "bridge", "brook", "broom", "cabin", "cable", "cactus", "camel", "candle",
    "canoe", "canyon", "cargo", "carpet", "cedar", "chalk", "charm", "cherry", "chess", "chief",
    "cider", "cinema", "citrus", "clamp", "cliff", "clover", "cobra", "comet", "coral", "cotton",
    "cradle", "crane", "daisy", "dance", "delta", "denim", "desert", "dingo", "dolphin",
    "donkey", "dragon", "drama", "dream", "drum", "dune", "eagle", "easel", "echo", "elbow",
    "elder", "ember", "emerald", "engine", "epoch", "fabric", "falcon", "feather", "fern",
    "ferry", "fiber", "field", "fjord", "flame", "flint", "flute", "focus", "forest", "fossil",
    "fox", "frost", "fudge", "galaxy", "garden", "garlic", "gecko", "ginger", "glacier", "globe",
    "gravel", "grove", "guitar", "habit", "hammer", "harbor", "harvest", "hazel", "helmet",
    "honey", "horizon", "husky", "igloo", "indigo", "iris", "island", "ivory", "jacket",
    "jaguar", "jasmine", "jelly", "jewel", "jungle", "kayak", "kernel", "kettle", "kitten",
    "koala", "label", "ladder", "lagoon", "lantern", "lemon", "lilac", "linen", "lizard",
    "lobster", "locket", "lotus", "lunar", "magnet", "mango", "maple", "marble", "meadow",
    "melon", "meteor", "mint", "mirror", "nectar", "needle", "nickel", "noodle", "nugget",
    "oasis", "ocean", "olive", "onion", "opal", "orbit", "orchid", "otter", "oxygen", "paddle",
    "panda", "paper", "parrot", "pebble", "pepper", "piano", "pilot", "planet", "plaza",
    "pocket", "polar", "poppy", "prism", "pumpkin", "puzzle", "quartz", "quiver", "rabbit",
    "radar", "radio", "raven", "reef", "ribbon", "river", "robin", "rocket", "saddle", "salmon",
    "sandal", "satin", "scarf", "shadow", "shell", "sierra", "silver", "sketch", "sonar",
    "spiral", "sponge", "spruce", "squid", "stone", "sugar", "summit", "tango", "temple",
    "thunder", "tiger", "timber", "toast", "topaz", "torch", "tulip", "tundra", "turtle",
    "unicorn", "urchin", "valley", "velvet", "violin", "vortex", "wafer", "walnut", "walrus",
    "whale", "willow", "window", "wizard", "yacht", "yogurt", "zebra", "zenith", "zephyr",
    "zipper"]

set_option maxRecDepth 4096 in
theorem length_words : words.length = 256 :=
  rfl

/-- The word of an octet. -/
def wordOf (byte : UInt8) : String :=
  words.get ⟨byte.toNat, by rw [length_words]; exact byte.toNat_lt⟩

end OneTimePad.Mnemonic
